import ChannelRouting.Json5.Text

/-!
# Numbers in JSON5

A number has an optional sign and is hexadecimal, decimal, infinite or not a number.
It is kept as written.

Where a number of 64 bits is wanted, the number is rounded to a double first, to the
nearest with ties to even, then its fraction is cut off, and what lies outside the
range goes to the nearer end of it. Some numbers cannot be read at all: signed
hexadecimal ones and those above 32 bits, decimals beyond the range of doubles, and
special ones with a plus sign. Where no number is wanted an integer must fit 64 bits
to count as readable.
-/

namespace ChannelRouting.Json5

/-- The sign of a number. -/
inductive Sign where
  | none
  | plus
  | minus
deriving DecidableEq

/-- A number without its sign. -/
inductive Magnitude where
  | hex (n : Nat)
  /-- The digits as one number, times a power of ten; whole if it is written with
  neither a point nor an exponent. -/
  | decimal (digits : Nat) (exponent : Int) (whole : Bool)
  | infinity
  | nan
deriving DecidableEq

/-- A number as it is written. -/
structure Number where
  sign : Sign
  magnitude : Magnitude
deriving DecidableEq

namespace Number

/-- A quotient rounded to the nearest natural number, a half to the even one. -/
def roundQuotient (num den : Nat) : Nat :=
  let q := num / den
  let r := num % den
  if 2 * r < den then q
  else if den < 2 * r then q + 1
  else if q % 2 = 0 then q else q + 1

/-- The whole part of a quotient after it was rounded to 53 binary digits. -/
def wholeOfDouble (num den : Nat) : Nat :=
  let top := Nat.log2 (num / den)
  if num < den then roundQuotient (num <<< 53) den >>> 53
  else if top ≤ 52 then roundQuotient (num <<< (52 - top)) den >>> (52 - top)
  else roundQuotient num (den <<< (top - 52)) <<< (top - 52)

/-- The least number that is rounded beyond the greatest double. -/
def overflow : Nat := ((1 <<< 54) - 1) <<< 970

def digitCount (n : Nat) : Nat := (Nat.toDigits 10 n).length

/-- The whole part of a decimal read as a double; none beyond the range of doubles.
The exponents for which the answer is plain are settled before a power is built. -/
def wholeOfDecimal (digits : Nat) (exponent : Int) : Option Nat :=
  let size : Int := digitCount digits + exponent
  if digits = 0 ∨ size < 0 then some 0
  else if 310 < size then none
  else
    let num := if 0 ≤ exponent then digits * Nat.pow 10 exponent.toNat else digits
    let den := if 0 ≤ exponent then 1 else Nat.pow 10 (-exponent).toNat
    if overflow * den ≤ num then none else some (wholeOfDouble num den)

/-- The greatest number of 64 bits. -/
def greatest : Nat := UInt64.size - 1

/-- The number as one of 64 bits without sign. -/
def toUInt64? (n : Number) : Option UInt64 :=
  let clamp (w : Nat) : UInt64 := UInt64.ofNat (min w greatest)
  match n.magnitude, n.sign with
  | .hex m, .none => if m < UInt32.size then some (clamp m) else none
  | .hex _, _ => none
  | .infinity, .none => some (clamp greatest)
  | .infinity, .minus => some 0
  | .nan, .none => some 0
  | .nan, .minus => some 0
  | .infinity, .plus => none
  | .nan, .plus => none
  | .decimal digits e _, sign =>
    (wholeOfDecimal digits e).map fun w => if sign = .minus then 0 else clamp w

/-- Whether the number can be read where none is wanted. -/
def isReadable (n : Number) : Bool :=
  match n.magnitude, n.sign with
  | .hex m, .none => m < UInt32.size
  | .hex _, _ => false
  | .infinity, s => s ≠ .plus
  | .nan, s => s ≠ .plus
  | .decimal digits _ true, .minus => digits ≤ UInt64.size / 2
  | .decimal digits _ true, _ => digits < UInt64.size / 2
  | .decimal digits e false, _ => (wholeOfDecimal digits e).isSome

/-! ## Reading -/

/-- The number that decimal digits write, read after the value `acc`. -/
def decimalValue (acc : Nat) (ds : List Char) : Nat :=
  ds.foldl (fun n c => n * 10 + (c.toNat - 48)) acc

/-- An exponent, if one follows, and what follows it. -/
def readExponent (cs : List Char) : Option Int × List Char :=
  let signed (negative : Bool) (rest : List Char) : Option Int × List Char :=
    let ds := rest.takeWhile Char.isDigit
    if ds.isEmpty then (none, cs)
    else
      let n : Int := decimalValue 0 ds
      (some (if negative then -n else n), rest.dropWhile Char.isDigit)
  match cs with
  | 'e' :: '-' :: rest => signed true rest
  | 'E' :: '-' :: rest => signed true rest
  | 'e' :: '+' :: rest => signed false rest
  | 'E' :: '+' :: rest => signed false rest
  | 'e' :: rest => signed false rest
  | 'E' :: rest => signed false rest
  | _ => (none, cs)

/-- The fraction and the exponent behind the whole digits `acc`. -/
def readTail (acc : Nat) (cs : List Char) : Magnitude × List Char :=
  match cs with
  | '.' :: rest =>
    let ds := rest.takeWhile Char.isDigit
    let (e, rest) := readExponent (rest.dropWhile Char.isDigit)
    (.decimal (decimalValue acc ds) (e.getD 0 - ds.length) false, rest)
  | _ =>
    let (e, rest) := readExponent cs
    (.decimal acc (e.getD 0) e.isNone, rest)

/-- The whole digits of a decimal: zero alone, or digits that begin with another. -/
def readWhole (cs : List Char) : Nat × List Char :=
  match cs with
  | '0' :: rest => (0, rest)
  | _ => (decimalValue 0 (cs.takeWhile Char.isDigit), cs.dropWhile Char.isDigit)

/-- What follows a word at the beginning of a text. -/
def after? (word : List Char) (cs : List Char) : Option (List Char) :=
  if cs.take word.length = word then some (cs.drop word.length) else none

/-- A number without its sign, and what follows it. -/
def readMagnitude (cs : List Char) : Option (Magnitude × List Char) :=
  let hex (rest : List Char) : Option (Magnitude × List Char) :=
    let ds := rest.takeWhile fun c => (hexValue? c).isSome
    if ds.isEmpty then none
    else (hexNumber? ds).map fun n => (.hex n, rest.drop ds.length)
  let special : Option (Magnitude × List Char) :=
    match after? "Infinity".toList cs, after? "NaN".toList cs with
    | some rest, _ => some (.infinity, rest)
    | none, some rest => some (.nan, rest)
    | none, none => none
  match cs with
  | '0' :: 'x' :: rest => (hex rest).or (some (readTail 0 ('x' :: rest)))
  | '0' :: 'X' :: rest => (hex rest).or (some (readTail 0 ('X' :: rest)))
  | '.' :: c :: rest => if c.isDigit then some (readTail 0 ('.' :: c :: rest)) else none
  | c :: _ =>
    if c.isDigit then
      let (whole, rest) := readWhole cs
      some (readTail whole rest)
    else special
  | [] => none

/-- A number, and what follows it. -/
def read (cs : List Char) : Option (Number × List Char) :=
  let signed (sign : Sign) (rest : List Char) : Option (Number × List Char) :=
    (readMagnitude rest).map fun (m, rest) => ({ sign := sign, magnitude := m }, rest)
  match cs with
  | '+' :: rest => signed .plus rest
  | '-' :: rest => signed .minus rest
  | _ => signed .none cs

/-- An integer as a number. -/
def ofInt (n : Int) : Number :=
  { sign := if n < 0 then .minus else .none, magnitude := .decimal n.natAbs 0 true }

end Number

end ChannelRouting.Json5
