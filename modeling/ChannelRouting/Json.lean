import ChannelRouting.Sorted.Map
import ChannelRouting.Wire.Record

/-!
# JSON values

The tree of data that typed values are written to and read from. A number is
kept as an integer, or as the literal of a number that is none: one with a
fraction or an exponent, or out of the range of 64 bits.

An object's members are visited in the order in which they stand in the tree.
Trees of objects whose members came from text have them in ascending order.
-/

namespace ChannelRouting

/-- A JSON value. -/
inductive Json where
  | null
  | bool (b : Bool)
  | int (n : Int)
  | decimal (literal : String)
  | str (s : String)
  | arr (items : List Json)
  | obj (members : List (String × Json))

namespace Json

instance : Inhabited Json := ⟨null⟩

def ofNat (n : Nat) : Json := int n

def ofString? (s : Option String) : Json := s.elim null str

def ofStrings (l : List String) : Json := arr (l.map str)

/-- Bytes as an array of numbers. -/
def ofBytes (bytes : List UInt8) : Json := arr (bytes.map fun b => ofNat b.toNat)

def ofHeaders (h : SortedMap String String) : Json := obj (h.toList.map fun p => (p.1, str p.2))

/-! ## Reading -/

def asString : Json → Decoded String
  | str s => .ok s
  | _ => .error .invalidType

def asItems : Json → Decoded (List Json)
  | arr items => .ok items
  | _ => .error .invalidType

/-- A natural number below a bound. -/
def asNatBelow (bound : Nat) : Json → Decoded Nat
  | int n => if 0 ≤ n ∧ n < bound then .ok n.toNat else .error .invalidValue
  | _ => .error .invalidType

/-- A list given as an array of its elements. -/
def asList {α : Type} (read : Json → Decoded α) (j : Json) : Decoded (List α) := do
  (← j.asItems).mapM read

def asStrings : Json → Decoded (List String) := asList asString

/-- Bytes given as an array of numbers. -/
def asBytes : Json → Decoded (List UInt8) :=
  asList fun item => do return UInt8.ofNat (← item.asNatBelow 256)

/-- A value or null. -/
def asOption {α : Type} (read : Json → Decoded α) : Json → Decoded (Option α)
  | null => .ok none
  | j => some <$> read j

/-- A map of texts given as an object; of a repeated name the last one counts. -/
def asHeaders : Json → Decoded (SortedMap String String)
  | obj members => members.foldlM (fun h p => do return h.insert p.1 (← p.2.asString)) .empty
  | _ => .error .invalidType

/-- The draft of a record, given as an object or as an array of its fields. -/
def asRecord {D : Type} (fields : List (Record.Field Json D)) (strangers : Record.Strangers)
    (d : D) : Json → Decoded D
  | obj members => Record.ofMembers fields strangers (fun _ => .ok ()) d members
  | arr items => do
    let (d, rest) ← Record.ofSequence fields d items
    if rest.isEmpty then return d else throw .invalidLength
  | _ => .error .invalidType

/-- A choice among named variants: a bare name, or an object with one member that
names the variant and holds its content. The outcome is the variant's place in
the list of names and its content. -/
def asVariant (names : List String) : Json → Decoded (String × Option Json)
  | str name => check name none
  | obj [(name, content)] => check name (some content)
  | obj _ => .error .invalidValue
  | _ => .error .invalidType
where
  check (name : String) (content : Option Json) : Decoded (String × Option Json) :=
    if name ∈ names then .ok (name, content) else .error (.unknownVariant name names)

/-- The content of a variant that has none: nothing or null. -/
def unitContent : Option Json → Decoded Unit
  | none => .ok ()
  | some null => .ok ()
  | some _ => .error .invalidType

/-- The draft of the fields of a variant, which only an object gives. -/
def recordContent {D : Type} (fields : List (Record.Field Json D)) (d : D) :
    Option Json → Decoded D
  | some (obj members) => Record.ofMembers fields .ignored (fun _ => .ok ()) d members
  | _ => .error .invalidType

end Json

end ChannelRouting
