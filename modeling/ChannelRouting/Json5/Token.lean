import ChannelRouting.Json5.Number

/-!
# Tokens of JSON5

A text is cut into marks, quoted texts, unquoted names and numbers. Blanks and
comments stand between them. An unquoted name keeps its spelling, because only the
plain spellings of `null`, `true`, `false`, `NaN` and `Infinity` are values.
-/

namespace ChannelRouting.Json5

/-- A token; the text of a quoted text or name is missing if its surrogates do not
pair. -/
inductive Token where
  | openBrace
  | closeBrace
  | openBracket
  | closeBracket
  | colon
  | comma
  | quoted (text : Option String)
  | name (spelling : List Piece) (text : Option String)
  | number (n : Number)
deriving DecidableEq

/-- Whether a character is a blank: a line end, a tabulator, a form feed, a space of
any width, or the byte-order mark. -/
def isBlank (c : Char) : Bool :=
  isLineEnd c || c = '\t' || c = '\x0b' || c = '\x0c' || c = ' '
    || c.toNat = 0xA0 || c.toNat = 0xFEFF || c.toNat = 0x1680
    || (0x2000 ≤ c.toNat && c.toNat ≤ 0x200A) || c.toNat = 0x202F
    || c.toNat = 0x205F || c.toNat = 0x3000

/-- What follows a comment of several lines. -/
def afterBlock? : List Char → Option (List Char)
  | [] => none
  | '*' :: '/' :: rest => some rest
  | _ :: rest => afterBlock? rest

def mark? : Char → Option Token
  | '\x7b' => some .openBrace
  | '\x7d' => some .closeBrace
  | '[' => some .openBracket
  | ']' => some .closeBracket
  | ':' => some .colon
  | ',' => some .comma
  | _ => none

/-- Whether a character may begin a number. -/
def isNumberStart (c : Char) : Bool := c.isDigit || c = '+' || c = '-' || c = '.'

/-- The token at the beginning of a text, and what follows it. -/
def readToken (cs : List Char) : Option (Token × List Char) :=
  match cs with
  | [] => none
  | c :: rest =>
    match mark? c with
    | some mark => some (mark, rest)
    | none =>
      if c = '"' || c = '\'' then
        (readBody c rest).map fun (pieces, rest) => (.quoted (textOf pieces), rest)
      else if isNumberStart c then
        (Number.read cs).map fun (n, rest) => (.number n, rest)
      else
        (readName cs).map fun (pieces, rest) => (.name pieces (textOf pieces), rest)

namespace Token

/-- The tokens of a text that takes at most `fuel` steps. -/
def scanFrom : (fuel : Nat) → List Char → Option (List Token)
  | _, [] => some []
  | 0, _ :: _ => none
  | fuel + 1, '/' :: '/' :: rest => scanFrom fuel (rest.dropWhile fun c => !isLineEnd c)
  | fuel + 1, '/' :: '*' :: rest => (afterBlock? rest).bind (scanFrom fuel)
  | fuel + 1, c :: rest =>
    if isBlank c then scanFrom fuel rest
    else
      match readToken (c :: rest) with
      | some (token, rest) => (scanFrom fuel rest).map (token :: ·)
      | none => none

/-- The tokens of a text; each step takes up a character at least. -/
def scan (text : String) : Option (List Token) := scanFrom text.toList.length text.toList

end Token

end ChannelRouting.Json5
