import ChannelRouting.Config.Load
import ChannelRouting.Service.Log

/-!
# The command line

The program takes one option, the configuration file. It ends with the status 0
after a run or when it was asked for help, 1 when the configuration or the run
fails, and 2 when the arguments are not understood.

A failure is shown as its outermost text and, below a heading, the causes further in;
several causes are numbered from 0.
-/

namespace ChannelRouting.CommandLine

/-- What the arguments ask for. -/
inductive Request where
  | run (path : String)
  | help
  | misuse
deriving DecidableEq

/-- Whether an argument can be the value of an option: it must not look like one. -/
def isValue (arg : String) : Bool := !arg.startsWith "-" || arg = "-"

/-- The value joined to the short option, without an equals sign in front. -/
def joinedValue (cs : List Char) : String :=
  match cs with
  | '=' :: rest => String.ofList rest
  | _ => String.ofList cs

/-- The request of arguments, after the path `path` was given. -/
def requestFrom (path : Option String) : List String → Request
  | [] => path.elim .misuse .run
  | arg :: rest =>
    match arg.toList with
    | ['-', 'h'] => .help
    | '-' :: 'h' :: _ => .help
    | ['-', 'c'] => given path rest
    | '-' :: 'c' :: value => again path (joinedValue value) rest
    | '-' :: '-' :: long =>
      if long = "help".toList then .help
      else if long = "config".toList then given path rest
      else if long.take 7 = "config=".toList then again path (String.ofList (long.drop 7)) rest
      else if long.isEmpty && rest.isEmpty then path.elim .misuse .run
      else .misuse
    | _ => .misuse
where
  /-- An option whose value is the next argument. -/
  given (path : Option String) : List String → Request
    | [] => .misuse
    | value :: rest => if isValue value then again path value rest else .misuse
  /-- An option that may be given once. -/
  again (path : Option String) (value : String) (rest : List String) : Request :=
    match path with
    | none => requestFrom (some value) rest
    | some _ => .misuse

/-- The request of the program's arguments. -/
def request (args : List String) : Request := requestFrom none args

/-- The lines of a failure. -/
def failureLines (outermost : String) (causes : List String) : List String :=
  let numbered := causes.zipIdx.map fun (cause, i) => toString i ++ ": " ++ cause
  ("Error: " ++ outermost) ::
    match causes with
    | [] => []
    | [cause] => ["Caused by:", cause]
    | _ => "Caused by:" :: numbered

/-- The lines of a file that is no configuration. The line of a text that is not
JSON5 is left out, its number counted. -/
def loadErrorLines (e : Config.LoadError) : List String :=
  match e.context, e.cause? with
  | outermost :: inner, some cause => failureLines outermost (inner ++ [cause])
  | outermost :: inner, none => (failureLines outermost (inner ++ [""])).dropLast
  | [], some cause => failureLines cause []
  | [], none => []

/-- The lines of a run that could not be set up. -/
def serviceErrorLines (e : ServiceError) : List String :=
  match e.causes with
  | outermost :: causes => failureLines outermost causes
  | [] => []

/-- How a run of a configuration ends. -/
inductive Ending where
  | success (log : List LogRecord)
  | failure (lines : List String)

/-- A run of the configuration that a file holds. -/
def runFile (path : String) (content : Except Config.ReadError (List UInt8)) (id : Nat → Uuid) :
    Ending :=
  match Config.load path content with
  | .error e => .failure (loadErrorLines e)
  | .ok c =>
    match Service.start c id with
    | .error e => .failure (serviceErrorLines e)
    | .ok s => .success s.settle.records

end ChannelRouting.CommandLine
