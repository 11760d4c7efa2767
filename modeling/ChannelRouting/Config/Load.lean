import ChannelRouting.Config.Form
import ChannelRouting.Text.Utf8

/-!
# Loading configurations

A text becomes a configuration in three stages: it must be JSON5, the value must
have the form of a configuration, and nothing may be wrong with that. A file is read
as UTF-8 before. A failure has a cause and, from the outside in, the activities
during which it happened.
-/

namespace ChannelRouting.Config

/-- Why a text is no configuration. -/
inductive ParseError where
  | notJson5
  | wrongForm (error : DecodeError)
  | offence (o : Offence)
deriving DecidableEq

namespace ParseError

/-- The activities during which a text turned out to be no configuration. -/
def context : ParseError → List String
  | notJson5 => ["unable to parse config"]
  | wrongForm _ => ["unable to parse config"]
  | offence _ => []

/-- The text of the cause; that of a text that is not JSON5 is left open. -/
def cause? : ParseError → Option String
  | notJson5 => none
  | wrongForm e => some e.message
  | offence o => some o.message

end ParseError

/-- The configuration of a text. -/
def parse (text : String) : Except ParseError Config :=
  match Json5.Value.parse? text with
  | none => .error .notJson5
  | some v =>
    match ofValue v with
    | .error e => .error (.wrongForm e)
    | .ok c =>
      match c.validate with
      | .error o => .error (.offence o)
      | .ok () => .ok c

/-- Why the text of a file could not be had. -/
inductive ReadError where
  | missing
  | notText
  | other (text : String)
deriving DecidableEq

def ReadError.message : ReadError → String
  | missing => "No such file or directory (os error 2)"
  | notText => "stream did not contain valid UTF-8"
  | other text => text

/-- Why a file is no configuration. -/
inductive LoadError where
  | unreadable (path : String) (error : ReadError)
  | invalid (path : String) (error : ParseError)
deriving DecidableEq

namespace LoadError

/-- The activities during which loading failed. -/
def context : LoadError → List String
  | unreadable path _ => ["unable to read config file " ++ path]
  | invalid path e => ("invalid config file " ++ path) :: e.context

def cause? : LoadError → Option String
  | unreadable _ e => some e.message
  | invalid _ e => e.cause?

end LoadError

/-- The text of a file's content. -/
def textOf (content : Except ReadError (List UInt8)) : Except ReadError String :=
  match content with
  | .error e => .error e
  | .ok bytes =>
    match Utf8.decode? bytes with
    | some text => .ok text
    | none => .error .notText

/-- The configuration of a file. -/
def load (path : String) (content : Except ReadError (List UInt8)) : Except LoadError Config :=
  match textOf content with
  | .error e => .error (.unreadable path e)
  | .ok text =>
    match parse text with
    | .error e => .error (.invalid path e)
    | .ok c => .ok c

end ChannelRouting.Config
