import ChannelRouting.Wire.DecodeError

/-!
# Reading records

A record is written as named members or as a plain sequence of its fields. Both
are read into a draft that holds what has been read so far.

Named members are visited in the order given. The first one that is repeated,
not known (where that is refused) or not readable decides the outcome; only then
is the first field looked for that must be there and is not. A sequence gives
the fields in their declared order; it may stop before fields that have a
default, and what stands behind the last field is left over.

The readers are generic in the type `V` of the data and the type `D` of the
draft.
-/

namespace ChannelRouting.Record

/-- What becomes of a record without the field. -/
inductive Absence where
  /-- The field must be there. -/
  | refused
  /-- The field may be missing among named members, not in a sequence. -/
  | allowed
  /-- The field has a default in both. -/
  | defaulted
deriving DecidableEq

/-- A field of a record. -/
structure Field (V D : Type) where
  name : String
  absence : Absence
  isRead : D → Bool
  read : V → D → Decoded D

/-- What becomes of members that are no field. -/
inductive Strangers where
  | ignored
  | refused
deriving DecidableEq

variable {V D : Type}

/-- One member, read into the draft. `ignore` reads the value of a member that is no
field. -/
def visit (fields : List (Field V D)) (strangers : Strangers) (ignore : V → Decoded Unit)
    (d : D) (member : String × V) : Decoded D :=
  match fields.find? (fun f => f.name = member.1) with
  | some f => if f.isRead d then .error (.duplicateField f.name) else f.read member.2 d
  | none =>
    match strangers with
    | .ignored => do
      ignore member.2
      return d
    | .refused => .error (.unknownField member.1 (fields.map Field.name))

/-- A draft in which no field is missing that must be there. -/
def complete (fields : List (Field V D)) (d : D) : Decoded D :=
  match fields.find? (fun f => f.absence = .refused && !f.isRead d) with
  | some f => .error (.missingField f.name)
  | none => .ok d

/-- The draft of a record given as named members. -/
def ofMembers (fields : List (Field V D)) (strangers : Strangers) (ignore : V → Decoded Unit)
    (d : D) (members : List (String × V)) : Decoded D := do
  complete fields (← members.foldlM (visit fields strangers ignore) d)

/-- The draft of a record given as a sequence, and what is left over of it. -/
def ofSequence : List (Field V D) → D → List V → Decoded (D × List V)
  | [], d, rest => .ok (d, rest)
  | f :: fields, d, [] =>
    if f.absence = .defaulted then ofSequence fields d [] else .error .invalidLength
  | f :: fields, d, v :: rest => do
    let d' ← f.read v d
    ofSequence fields d' rest

end ChannelRouting.Record
