import ChannelRouting.Json5.Letter

/-!
# Text in JSON5

The bodies of quoted texts and the spelling of unquoted names. A body is a sequence
of characters and of code units of 16 bits given by `\u`; a line that ends in a
backslash goes on in the next. The code units must form pairs where they are
surrogates. A body that breaks this rule is well-formed and has no text, which only
those who want its text notice.
-/

namespace ChannelRouting.Json5

/-- A piece of a text: a character, or a code unit of 16 bits. -/
inductive Piece where
  | char (c : Char)
  | unit (n : Nat)
deriving DecidableEq

/-- The characters that pieces write, none if a surrogate has no partner. -/
def charsOf : List Piece → Option (List Char)
  | [] => some []
  | .char c :: rest => (charsOf rest).map (c :: ·)
  | .unit n :: .unit m :: rest =>
    if 0xD800 ≤ n ∧ n < 0xDC00 then
      if 0xDC00 ≤ m ∧ m < 0xE000 then
        (charsOf rest).map (Char.ofNat (0x10000 + (n - 0xD800) * 0x400 + (m - 0xDC00)) :: ·)
      else none
    else if 0xDC00 ≤ n ∧ n < 0xE000 then none
    else (charsOf (.unit m :: rest)).map (Char.ofNat n :: ·)
  | .unit n :: rest =>
    if 0xD800 ≤ n ∧ n < 0xE000 then none else (charsOf rest).map (Char.ofNat n :: ·)

/-- The text that pieces write. -/
def textOf (pieces : List Piece) : Option String := (charsOf pieces).map String.ofList

/-- Whether a character ends a line. -/
def isLineEnd (c : Char) : Bool :=
  c = '\n' || c = '\r' || c.toNat = 0x2028 || c.toNat = 0x2029

/-- The value of a hexadecimal digit. -/
def hexValue? (c : Char) : Option Nat :=
  if '0' ≤ c ∧ c ≤ '9' then some (c.toNat - 48)
  else if 'a' ≤ c ∧ c ≤ 'f' then some (c.toNat - 87)
  else if 'A' ≤ c ∧ c ≤ 'F' then some (c.toNat - 55)
  else none

/-- The number that hexadecimal digits write. -/
def hexNumber? (cs : List Char) : Option Nat :=
  cs.foldlM (fun n c => (hexValue? c).map (n * 16 + ·)) 0

/-- The character that an escaped one stands for. -/
def unescape (c : Char) : Char :=
  match c with
  | 'b' => '\x08'
  | 'f' => '\x0c'
  | 'n' => '\n'
  | 'r' => '\r'
  | 't' => '\t'
  | 'v' => '\x0b'
  | c => c

/-- A piece put in front of a body that was read. -/
def cons (p : Piece) (body : Option (List Piece × List Char)) :
    Option (List Piece × List Char) :=
  body.map fun (pieces, rest) => (p :: pieces, rest)

/-- The body of a text up to its closing quote, and what follows the quote. -/
def readBody (quote : Char) : List Char → Option (List Piece × List Char)
  | [] => none
  | '\\' :: '\r' :: '\n' :: rest => readBody quote rest
  | '\\' :: 'x' :: a :: b :: rest =>
    match hexNumber? [a, b] with
    | some n => cons (.char (Char.ofNat n)) (readBody quote rest)
    | none => none
  | '\\' :: 'u' :: a :: b :: c :: d :: rest =>
    match hexNumber? [a, b, c, d] with
    | some n => cons (.unit n) (readBody quote rest)
    | none => none
  | '\\' :: '0' :: rest => cons (.char '\x00') (readBody quote rest)
  | '\\' :: c :: rest =>
    if isLineEnd c then readBody quote rest
    else if c.isDigit || c = 'x' || c = 'u' then none
    else cons (.char (unescape c)) (readBody quote rest)
  | c :: rest =>
    if c = quote then some ([], rest)
    else if isLineEnd c || c = '\\' then none
    else cons (.char c) (readBody quote rest)

/-- The rest of an unquoted name, and what follows it. -/
def readNameRest : List Char → List Piece × List Char
  | [] => ([], [])
  | '\\' :: 'u' :: a :: b :: c :: d :: rest =>
    match hexNumber? [a, b, c, d] with
    | some n =>
      let (pieces, rest) := readNameRest rest
      (.unit n :: pieces, rest)
    | none => ([], '\\' :: 'u' :: a :: b :: c :: d :: rest)
  | ch :: rest =>
    if isNamePart ch then
      let (pieces, rest) := readNameRest rest
      (.char ch :: pieces, rest)
    else ([], ch :: rest)

/-- An unquoted name, and what follows it. -/
def readName : List Char → Option (List Piece × List Char)
  | '\\' :: 'u' :: a :: b :: c :: d :: rest =>
    (hexNumber? [a, b, c, d]).map fun n =>
      let (pieces, rest) := readNameRest rest
      (.unit n :: pieces, rest)
  | c :: rest =>
    if isNameStart c then
      let (pieces, rest) := readNameRest rest
      some (.char c :: pieces, rest)
    else none
  | [] => none

end ChannelRouting.Json5
