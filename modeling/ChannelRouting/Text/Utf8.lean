/-!
# Reading bytes as UTF-8

A byte string is cut into characters and maximal invalid parts. A maximal
invalid part is a lead byte with the longest run of continuation bytes that
could still belong to one character, or a single byte that begins none.

`Utf8.parts` is that cutting. Strict reading (`Utf8.decode?`) wants every part
to be a character; lenient reading (`Utf8.decodeLossy`) writes U+FFFD once for
each invalid part.
-/

namespace ChannelRouting.Utf8

/-- A character begun and not yet complete: the bits read so far, how many
bytes are still to come, and the range the next of them must lie in. -/
structure Partial where
  bits : Nat
  missing : Nat
  low : Nat := 0x80
  high : Nat := 0xBF

/-- What a byte begins: a whole character, a longer one, or nothing. -/
inductive Lead where
  | whole (c : Char)
  | begun (p : Partial)
  | invalid

/-- The lead byte of a character. The ranges of the second byte keep out
overlong forms, surrogates and numbers above U+10FFFF. -/
def Lead.ofByte (b : Nat) : Lead :=
  if b < 0x80 then .whole (Char.ofNat b)
  else if b < 0xC2 then .invalid
  else if b < 0xE0 then .begun { bits := b - 0xC0, missing := 1 }
  else if b = 0xE0 then .begun { bits := 0, missing := 2, low := 0xA0 }
  else if b = 0xED then .begun { bits := 0xD, missing := 2, high := 0x9F }
  else if b < 0xF0 then .begun { bits := b - 0xE0, missing := 2 }
  else if b = 0xF0 then .begun { bits := 0, missing := 3, low := 0x90 }
  else if b < 0xF4 then .begun { bits := b - 0xF0, missing := 3 }
  else if b = 0xF4 then .begun { bits := 4, missing := 3, high := 0x8F }
  else .invalid

/-- The parts of a byte string, `none` for an invalid one. -/
def partsFrom (open_ : Option Partial) : List UInt8 → List (Option Char)
  | [] => if open_.isSome then [none] else []
  | b :: rest =>
    let n := b.toNat
    let start : List (Option Char) × Option Partial :=
      match Lead.ofByte n with
      | .whole c => ([some c], none)
      | .begun p => ([], some p)
      | .invalid => ([none], none)
    let (out, next) : List (Option Char) × Option Partial :=
      match open_ with
      | none => start
      | some p =>
        if p.low ≤ n ∧ n ≤ p.high then
          let bits := p.bits * 64 + (n - 0x80)
          if p.missing ≤ 1 then ([some (Char.ofNat bits)], none)
          else ([], some { bits := bits, missing := p.missing - 1 })
        else (none :: start.1, start.2)
    out ++ partsFrom next rest

/-- The characters and maximal invalid parts of a byte string, in order. -/
def parts (bytes : List UInt8) : List (Option Char) := partsFrom none bytes

/-- The text of a byte string all of whose parts are characters. -/
def decode? (bytes : List UInt8) : Option String :=
  ((parts bytes).mapM id).map String.ofList

/-- The text of a byte string, one U+FFFD for each invalid part. -/
def decodeLossy (bytes : List UInt8) : String :=
  String.ofList ((parts bytes).map (·.getD (Char.ofNat 0xFFFD)))

def encode (s : String) : List UInt8 := s.toUTF8.toList

end ChannelRouting.Utf8
