import ChannelRouting.Text.Unprintable

/-!
# Quoted text

Text shown between double quotes in error messages and in recorded events. The
quote and the backslash are escaped, the usual controls have short names, and
every other character without a glyph of its own is written by its number in
hexadecimal.

A list of quoted texts stands in brackets, an optional name is written
`Some(..)` or `None`.
-/

namespace ChannelRouting.Text

/-- The digits of a number in lower-case hexadecimal, without leading zeros. -/
def hex (n : Nat) : String := String.ofList (Nat.toDigits 16 n)

/-- One character as it stands between quotes. -/
def quotedChar (c : Char) : String :=
  if c = '\x00' then "\\0"
  else if c = '\t' then "\\t"
  else if c = '\r' then "\\r"
  else if c = '\n' then "\\n"
  else if c = '\\' then "\\\\"
  else if c = '"' then "\\\""
  else if isUnprintable c then "\\u\x7b" ++ hex c.toNat ++ "\x7d"
  else c.toString

/-- A text between double quotes. -/
def quoted (s : String) : String :=
  "\"" ++ String.join (s.toList.map quotedChar) ++ "\""

/-- Texts between double quotes, in brackets. -/
def quotedList (l : List String) : String :=
  "[" ++ ", ".intercalate (l.map quoted) ++ "]"

/-- A name that may be missing. -/
def optional (name : Option String) : String :=
  match name with
  | some s => "Some(" ++ s ++ ")"
  | none => "None"

end ChannelRouting.Text
