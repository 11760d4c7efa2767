import ChannelRouting.Config
import ChannelRouting.Json5.Value
import ChannelRouting.Wire.Entry
import ChannelRouting.Wire.LoopConfig

/-!
# The form of configurations

How configurations are read from JSON5 values and written as JSON values. Whatever
has a default may be left out; what is written has every member. Members of other
names are refused, those of a strategy, a timeout and an optimistic store apart.
-/

namespace ChannelRouting

open Json5

namespace Strategy

/-- The strategy that the members of an object name, read in order; a second name is
refused and the other members are looked through. -/
def ofNamedMembers (found : Option Strategy) : List (Option String × Value) → Decoded Strategy
  | [] =>
    match found with
    | some s => .ok s
    | none => .error (.missingField "type")
  | (none, _) :: _ => .error .malformed
  | (some name, v) :: rest =>
    if name = "type" then
      if found.isSome then .error (.duplicateField "type")
      else do ofNamedMembers (some (← ofTag (← v.asString))) rest
    else do
      v.ignore
      ofNamedMembers found rest

/-- The strategy of a JSON5 value: an object with the member `type`, or an array of
the name alone. -/
def ofValue : Value → Decoded Strategy
  | .object members => ofNamedMembers none members
  | .array [] => .error (.missingField "type")
  | .array (v :: rest) => do
    let s ← ofTag (← v.asString)
    rest.forM Value.ignore
    if rest.isEmpty then return s else throw .invalidLength
  | v => v.mismatch

end Strategy

namespace WaitPolicy

def ofValue (v : Value) : Decoded WaitPolicy := do
  match ← v.asVariant variants with
  | ("indefinite", _) => return indefinite
  | ("immediate", _) => return immediate
  | (_, content) => ofTimeout <$> Value.recordContent (timeoutFields Value.asUInt64) none content

end WaitPolicy

namespace LoopConfig

def ofValue (v : Value) : Decoded LoopConfig :=
  ofDraft <$> v.asRecord (fields WaitPolicy.ofValue) .refused {}

end LoopConfig

namespace StoreKind

def variants : List String := ["in_memory", "optimistic"]

/-- The one field of an optimistic store. -/
def attemptFields : List (Record.Field Value (Option UInt64)) :=
  [{ name := "max_attempts", absence := .refused, isRead := Option.isSome,
     read := fun v _ => some <$> v.asUInt64 }]

def ofValue (v : Value) : Decoded StoreKind := do
  match ← v.asVariant variants with
  | ("in_memory", _) => return inMemory
  | (_, content) =>
    let attempts ← Value.recordContent attemptFields none content
    return optimistic (attempts.getD 0).toNat

def toJson : StoreKind → Json
  | inMemory => .str "in_memory"
  | optimistic n => .obj [("optimistic", .obj [("max_attempts", .ofNat n)])]

end StoreKind

namespace RouteSetting

structure Draft where
  target : Option String := none
  keys : Option (List String) := none

def fields : List (Record.Field Value Draft) :=
  [{ name := "target", absence := .refused, isRead := fun d => d.target.isSome,
     read := fun v d => do return { d with target := some (← v.asString) } },
   { name := "routing_keys", absence := .defaulted, isRead := fun d => d.keys.isSome,
     read := fun v d => do
       return { d with keys := some (← (← v.asItems).mapM Value.asString) } }]

def ofValue (v : Value) : Decoded RouteSetting := do
  let d ← v.asRecord fields .refused {}
  return { target := d.target.getD "", keys := d.keys.getD [] }

def toJson (r : RouteSetting) : Json :=
  .obj [("target", .str r.target), ("routing_keys", .ofStrings r.keys)]

end RouteSetting

namespace RouterSetting

structure Draft where
  source : Option String := none
  strategy : Option (Option Strategy) := none
  routes : Option (List RouteSetting) := none

def fields : List (Record.Field Value Draft) :=
  [{ name := "source", absence := .refused, isRead := fun d => d.source.isSome,
     read := fun v d => do return { d with source := some (← v.asString) } },
   { name := "strategy", absence := .defaulted, isRead := fun d => d.strategy.isSome,
     read := fun v d => do return { d with strategy := some (← v.asOption Strategy.ofValue) } },
   { name := "routes", absence := .defaulted, isRead := fun d => d.routes.isSome,
     read := fun v d => do
       return { d with routes := some (← (← v.asItems).mapM RouteSetting.ofValue) } }]

def ofValue (v : Value) : Decoded RouterSetting := do
  let d ← v.asRecord fields .refused {}
  return { source := d.source.getD "", strategy := d.strategy.getD none,
           routes := d.routes.getD [] }

def toJson (r : RouterSetting) : Json :=
  .obj [("source", .str r.source), ("strategy", strategyToJson r.strategy),
    ("routes", .arr (r.routes.map RouteSetting.toJson))]

end RouterSetting

namespace SeedMessage

structure Draft where
  source : Option String := none
  routingKey : Option (Option String) := none
  body : Option String := none

def fields : List (Record.Field Value Draft) :=
  [{ name := "source", absence := .refused, isRead := fun d => d.source.isSome,
     read := fun v d => do return { d with source := some (← v.asString) } },
   { name := "routing_key", absence := .defaulted, isRead := fun d => d.routingKey.isSome,
     read := fun v d => do return { d with routingKey := some (← v.asOption Value.asString) } },
   { name := "body", absence := .refused, isRead := fun d => d.body.isSome,
     read := fun v d => do return { d with body := some (← v.asString) } }]

def ofValue (v : Value) : Decoded SeedMessage := do
  let d ← v.asRecord fields .refused {}
  return { source := d.source.getD "", routingKey := d.routingKey.getD none,
           body := d.body.getD "" }

def toJson (m : SeedMessage) : Json :=
  .obj [("source", .str m.source), ("routing_key", .ofString? m.routingKey),
    ("body", .str m.body)]

end SeedMessage

namespace Config

structure Draft where
  loops : Option LoopConfig := none
  store : Option StoreKind := none
  routers : Option (List RouterSetting) := none
  seeds : Option (List SeedMessage) := none

def fields : List (Record.Field Value Draft) :=
  [{ name := "router_config", absence := .defaulted, isRead := fun d => d.loops.isSome,
     read := fun v d => do return { d with loops := some (← LoopConfig.ofValue v) } },
   { name := "store", absence := .defaulted, isRead := fun d => d.store.isSome,
     read := fun v d => do return { d with store := some (← StoreKind.ofValue v) } },
   { name := "routers", absence := .refused, isRead := fun d => d.routers.isSome,
     read := fun v d => do
       return { d with routers := some (← (← v.asItems).mapM RouterSetting.ofValue) } },
   { name := "seed_messages", absence := .defaulted, isRead := fun d => d.seeds.isSome,
     read := fun v d => do
       return { d with seeds := some (← (← v.asItems).mapM SeedMessage.ofValue) } }]

def ofValue (v : Value) : Decoded Config := do
  let d ← v.asRecord fields .refused {}
  return { loops := d.loops.getD {}, store := d.store.getD .inMemory,
           routers := d.routers.getD [], seeds := d.seeds.getD [] }

def toJson (c : Config) : Json :=
  .obj [("router_config", c.loops.toJson), ("store", c.store.toJson),
    ("routers", .arr (c.routers.map RouterSetting.toJson)),
    ("seed_messages", .arr (c.seeds.map SeedMessage.toJson))]

end Config

end ChannelRouting
