/-!
# Why a value is refused

Reading a typed value from a tree of data fails for one of these causes. The
causes that name something in the data keep it; the others are categories.
-/

namespace ChannelRouting

/-- Why a tree of data is not the form of a typed value. -/
inductive DecodeError where
  | missingField (name : String)
  | unknownField (name : String) (expected : List String)
  | duplicateField (name : String)
  | unknownVariant (name : String) (expected : List String)
  | invalidType
  | invalidValue
  | invalidLength
  | invalidUuid
  | malformed
deriving DecidableEq

namespace DecodeError

/-- A name within backticks. -/
def ticked (name : String) : String := "`" ++ name ++ "`"

/-- The names that would have been accepted. -/
def alternatives : List String → String
  | [] => "nothing"
  | [a] => ticked a
  | [a, b] => ticked a ++ " or " ++ ticked b
  | names => "one of " ++ ", ".intercalate (names.map ticked)

def message : DecodeError → String
  | missingField name => "missing field " ++ ticked name
  | unknownField name expected =>
    "unknown field " ++ ticked name ++ ", expected " ++ alternatives expected
  | duplicateField name => "duplicate field " ++ ticked name
  | unknownVariant name expected =>
    "unknown variant " ++ ticked name ++ ", expected " ++ alternatives expected
  | invalidType => "invalid type"
  | invalidValue => "invalid value"
  | invalidLength => "invalid length"
  | invalidUuid => "UUID parsing failed"
  | malformed => "malformed"

end DecodeError

/-- The outcome of reading a typed value. -/
abbrev Decoded (α : Type) := Except DecodeError α

end ChannelRouting
