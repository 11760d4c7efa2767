import ChannelRouting.Json
import ChannelRouting.Json5.Token

/-!
# JSON5 values

The tree of data of a JSON5 text. The members of an object stand in the order of the
text, repeated names included.

Tokens are put together by a machine with a stack of the arrays and objects that are
not closed yet; each token makes one step of it.
-/

namespace ChannelRouting.Json5

/-- A JSON5 value. -/
inductive Value where
  | null
  | bool (b : Bool)
  | text (t : Option String)
  | number (n : Number)
  | array (items : List Value)
  | object (members : List (Option String × Value))

namespace Value

instance : Inhabited Value := ⟨null⟩

/-- An array or object that is not closed yet, the last item first. -/
inductive Frame where
  | array (items : List Value)
  | object (members : List (Option String × Value)) (name : Option String)

/-- What may come next. -/
inductive State where
  /-- A value must come. -/
  | wantsValue (stack : List Frame)
  /-- An item of an array, or its end. -/
  | wantsItem (items : List Value) (stack : List Frame)
  /-- The name of a member, or the end of the object. -/
  | wantsName (members : List (Option String × Value)) (stack : List Frame)
  | wantsColon (members : List (Option String × Value)) (name : Option String)
      (stack : List Frame)
  /-- A value is complete. -/
  | complete (v : Value) (stack : List Frame)

/-- The characters of a spelling without escapes. -/
def plainSpelling (pieces : List Piece) : Option (List Char) :=
  pieces.mapM fun p => match p with | .char c => some c | .unit _ => none

def ofName? (spelling : List Piece) : Option Value :=
  (plainSpelling spelling).bind fun cs =>
    match String.ofList cs with
    | "null" => some null
    | "true" => some (bool true)
    | "false" => some (bool false)
    | "NaN" => some (number { sign := .none, magnitude := .nan })
    | "Infinity" => some (number { sign := .none, magnitude := .infinity })
    | _ => none

/-- What follows when a value begins with a token. -/
def start (stack : List Frame) : Token → Option State
  | .openBrace => some (.wantsName [] stack)
  | .openBracket => some (.wantsItem [] stack)
  | .quoted t => some (.complete (text t) stack)
  | .number n => some (.complete (number n) stack)
  | .name spelling _ => (ofName? spelling).map (.complete · stack)
  | _ => none

/-- One step of the machine. -/
def step : State → Token → Option State
  | .wantsValue stack, t => start stack t
  | .wantsItem items stack, .closeBracket => some (.complete (array items.reverse) stack)
  | .wantsItem items stack, t => start (.array items :: stack) t
  | .wantsName members stack, .closeBrace => some (.complete (object members.reverse) stack)
  | .wantsName members stack, .quoted t => some (.wantsColon members t stack)
  | .wantsName members stack, .name _ t => some (.wantsColon members t stack)
  | .wantsName _ _, _ => none
  | .wantsColon members name stack, .colon => some (.wantsValue (.object members name :: stack))
  | .wantsColon _ _ _, _ => none
  | .complete v (.array items :: stack), .comma => some (.wantsItem (v :: items) stack)
  | .complete v (.array items :: stack), .closeBracket =>
    some (.complete (array (v :: items).reverse) stack)
  | .complete v (.object members name :: stack), .comma =>
    some (.wantsName ((name, v) :: members) stack)
  | .complete v (.object members name :: stack), .closeBrace =>
    some (.complete (object ((name, v) :: members).reverse) stack)
  | .complete _ _, _ => none

/-- The value that tokens make up. -/
def ofTokens? (tokens : List Token) : Option Value :=
  match tokens.foldlM step (.wantsValue []) with
  | some (.complete v []) => some v
  | _ => none

/-- The value of a text. -/
def parse? (s : String) : Option Value := (Token.scan s).bind ofTokens?

mutual

/-- The value that the text of a JSON value is read as. A number that is no integer
is taken as not a number; no configuration is written with one. -/
def ofJson : Json → Value
  | .null => null
  | .bool b => bool b
  | .int n => number (.ofInt n)
  | .decimal _ => number { sign := .none, magnitude := .nan }
  | .str s => text (some s)
  | .arr items => array (ofItems items)
  | .obj members => object (ofMembers members)

/-- The values that the items of an array are read as. -/
def ofItems : List Json → List Value
  | [] => []
  | j :: rest => ofJson j :: ofItems rest

/-- The members that the members of an object are read as. -/
def ofMembers : List (String × Json) → List (Option String × Value)
  | [] => []
  | (name, j) :: rest => (some name, ofJson j) :: ofMembers rest

end

/-! ## Reading -/

mutual

/-- Whether every text and number in a value can be read. -/
def isReadable : Value → Bool
  | null => true
  | bool _ => true
  | text t => t.isSome
  | number n => n.isReadable
  | array items => areReadable items
  | object members => membersReadable members

/-- Whether every text and number in a list of values can be read. -/
def areReadable : List Value → Bool
  | [] => true
  | v :: rest => v.isReadable && areReadable rest

/-- Whether every name, text and number in a list of members can be read. -/
def membersReadable : List (Option String × Value) → Bool
  | [] => true
  | (name, v) :: rest => name.isSome && v.isReadable && membersReadable rest

end

/-- A value that is looked through and not used. -/
def ignore (v : Value) : Decoded Unit := if v.isReadable then .ok () else .error .malformed

/-- A value of a kind that is not wanted. An unreadable text or number is found out
before its kind is. -/
def mismatch {α : Type} : Value → Decoded α
  | text none => .error .malformed
  | number n => .error (if n.isReadable then .invalidType else .malformed)
  | _ => .error .invalidType

def asString : Value → Decoded String
  | text (some s) => .ok s
  | v => mismatch v

def asItems : Value → Decoded (List Value)
  | array items => .ok items
  | v => mismatch v

/-- A value or null. -/
def asOption {α : Type} (read : Value → Decoded α) : Value → Decoded (Option α)
  | null => .ok none
  | v => some <$> read v

/-- A number of 64 bits without sign. -/
def asUInt64 : Value → Decoded UInt64
  | number n =>
    match n.toUInt64? with
    | some m => .ok m
    | none => .error .malformed
  | _ => .error .malformed

/-- The members up to the first whose name cannot be read, and whether there is one. -/
def namedMembers : List (Option String × Value) → List (String × Value) × Bool
  | [] => ([], false)
  | (none, _) :: _ => ([], true)
  | (some name, v) :: rest =>
    let (members, broken) := namedMembers rest
    ((name, v) :: members, broken)

/-- The draft of a record given as an object. -/
def recordOfMembers {D : Type} (fields : List (Record.Field Value D))
    (strangers : Record.Strangers) (d : D) (members : List (Option String × Value)) :
    Decoded D := do
  let (named, broken) := namedMembers members
  let d ← named.foldlM (Record.visit fields strangers ignore) d
  if broken then throw .malformed
  Record.complete fields d

/-- The draft of a record, given as an object or as an array of its fields; items
behind the last field are not looked at. -/
def asRecord {D : Type} (fields : List (Record.Field Value D)) (strangers : Record.Strangers)
    (d : D) : Value → Decoded D
  | object members => recordOfMembers fields strangers d members
  | array items => do
    let (d, _) ← Record.ofSequence fields d items
    return d
  | v => mismatch v

/-- A choice among named variants: a text, or an object whose first member names the
variant and holds its content. -/
def asVariant (names : List String) : Value → Decoded (String × Option Value)
  | text t => check t none
  | object ((name, content) :: _) => check name (some content)
  | _ => .error .malformed
where
  check (name : Option String) (content : Option Value) : Decoded (String × Option Value) :=
    match name with
    | none => .error .malformed
    | some name =>
      if name ∈ names then .ok (name, content) else .error (.unknownVariant name names)

/-- The draft of the fields of a variant, which only an object gives. -/
def recordContent {D : Type} (fields : List (Record.Field Value D)) (d : D) :
    Option Value → Decoded D
  | some (object members) => recordOfMembers fields .ignored d members
  | _ => .error .malformed

end Value

end ChannelRouting.Json5
