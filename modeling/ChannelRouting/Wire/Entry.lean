import ChannelRouting.Json
import ChannelRouting.Mutation

/-!
# Wire forms of entries and mutations

How strategies, routes, entries and mutations are written as JSON values and
read back. Reading checks shapes only: an entry with two routes to one target,
or with a route without keys, is read as it stands.
-/

namespace ChannelRouting

namespace Strategy

def variants : List String := ["direct", "fanout", "topic"]

def tag : Strategy → String
  | direct => "direct"
  | fanout => "fanout"
  | topic => "topic"

/-- The wire form of a strategy: an object that holds its name. -/
def toJson (s : Strategy) : Json := .obj [("type", .str s.tag)]

def ofTag (name : String) : Decoded Strategy :=
  match name with
  | "direct" => .ok direct
  | "fanout" => .ok fanout
  | "topic" => .ok topic
  | _ => .error (.unknownVariant name variants)

/-- The strategy of the member `type`, whatever the other members are. -/
def ofMembers : List (String × Json) → Decoded Strategy
  | [] => .error (.missingField "type")
  | ("type", v) :: _ => do ofTag (← v.asString)
  | _ :: rest => ofMembers rest

/-- The strategy a value is the wire form of: an object with the member `type`,
or an array of the name alone. -/
def ofJson : Json → Decoded Strategy
  | .obj members => ofMembers members
  | .arr [] => .error (.missingField "type")
  | .arr (v :: rest) => do
    let s ← ofTag (← v.asString)
    if rest.isEmpty then return s else throw .invalidLength
  | _ => .error .invalidType

end Strategy

/-- The wire form of a strategy that may be missing. -/
def strategyToJson (s : Option Strategy) : Json := s.elim .null Strategy.toJson

namespace ChannelKey

def toJson (k : ChannelKey) : Json := .str k.name

/-- The channel key a value is the wire form of. -/
def ofJson (j : Json) : Decoded ChannelKey := ChannelKey.mk <$> j.asString

end ChannelKey

namespace Route

def toJson (r : Route) : Json :=
  .obj [("target_key", r.target.toJson), ("routing_keys", .ofStrings r.keys.toList)]

structure Draft where
  target : Option ChannelKey := none
  keys : Option (SortedSet String) := none

def fields : List (Record.Field Json Draft) :=
  [{ name := "target_key", absence := .refused, isRead := fun d => d.target.isSome,
     read := fun v d => do return { d with target := some (← ChannelKey.ofJson v) } },
   { name := "routing_keys", absence := .refused, isRead := fun d => d.keys.isSome,
     read := fun v d => do return { d with keys := some (.ofList (← v.asStrings)) } }]

def ofJson (j : Json) : Decoded Route := do
  let d ← j.asRecord fields .ignored {}
  return { target := d.target.getD default, keys := d.keys.getD default }

end Route

namespace Entry

def toJson (e : Entry) : Json :=
  .obj [("channel_key", e.channel.toJson), ("strategy", strategyToJson e.strategy),
    ("routes", .arr (e.routes.map Route.toJson))]

structure Draft where
  channel : Option ChannelKey := none
  strategy : Option (Option Strategy) := none
  routes : Option (List Route) := none

def fields : List (Record.Field Json Draft) :=
  [{ name := "channel_key", absence := .refused, isRead := fun d => d.channel.isSome,
     read := fun v d => do return { d with channel := some (← ChannelKey.ofJson v) } },
   { name := "strategy", absence := .allowed, isRead := fun d => d.strategy.isSome,
     read := fun v d => do return { d with strategy := some (← v.asOption Strategy.ofJson) } },
   { name := "routes", absence := .refused, isRead := fun d => d.routes.isSome,
     read := fun v d => do return { d with routes := some (← v.asList Route.ofJson) } }]

def ofJson (j : Json) : Decoded Entry := do
  let d ← j.asRecord fields .ignored {}
  return { channel := d.channel.getD default, strategy := d.strategy.getD none,
           routes := d.routes.getD [] }

end Entry

namespace Mutation

def variants : List String := ["AddRoute", "RemoveRoute", "SetStrategy"]

/-- The target and the keys of a mutation of routes. -/
def bindingToJson (target : ChannelKey) (keys : List String) : Json :=
  .obj [("target_key", target.toJson), ("routing_keys", .ofStrings keys)]

/-- The wire form of a mutation: an object that names it. -/
def toJson : Mutation → Json
  | addRoute target keys => .obj [("AddRoute", bindingToJson target keys)]
  | removeRoute target keys => .obj [("RemoveRoute", bindingToJson target keys)]
  | setStrategy strategy => .obj [("SetStrategy", strategyToJson strategy)]

structure Draft where
  target : Option ChannelKey := none
  keys : Option (List String) := none

def fields : List (Record.Field Json Draft) :=
  [{ name := "target_key", absence := .refused, isRead := fun d => d.target.isSome,
     read := fun v d => do return { d with target := some (← ChannelKey.ofJson v) } },
   { name := "routing_keys", absence := .refused, isRead := fun d => d.keys.isSome,
     read := fun v d => do return { d with keys := some (← v.asStrings) } }]

def ofJson (j : Json) : Decoded Mutation := do
  match ← j.asVariant variants with
  | ("SetStrategy", some content) => setStrategy <$> content.asOption Strategy.ofJson
  | ("SetStrategy", none) => throw .invalidType
  | (name, content) =>
    let d ← Json.recordContent fields {} content
    let target := d.target.getD default
    let keys := d.keys.getD []
    return if name = "AddRoute" then addRoute target keys else removeRoute target keys

end Mutation

end ChannelRouting
