import ChannelRouting.Config
import ChannelRouting.Node
import ChannelRouting.Worker

/-!
# One-shot runs

A run of a configuration: open a router for each source and set up its entry, put
the messages to begin with on the sources, close the sources, run one loop for each
of them until it stops, and count what arrived at the configured targets.

The loops share a node, which is a store and a transport that nobody else uses. A
round of the service is a step of one of its loops; `Service.settle` lets them take
turns until every loop has stopped, one loop after another.
-/

namespace ChannelRouting

/-- Why a run could not be set up. -/
inductive ServiceError where
  | opening (source : String) (error : RouterError)
  | routing (error : RouterError)
  | seeding (error : TransportError)
deriving DecidableEq

namespace ServiceError

/-- The texts of a failure, from the outside in. -/
def causes : ServiceError → List String
  | opening source e => ["unable to open router for " ++ source, e.message]
  | routing e => [e.message]
  | seeding e => [e.message]

end ServiceError

/-- The loops of a run with the node they share. -/
structure Service where
  node : Node
  runs : List Run
  /-- The configured targets. -/
  targets : SortedSet ChannelKey

namespace Service

/-- The steps by which a node is set up. -/
abbrev Setup (α : Type) := ExceptT ServiceError (StateM Node) α

/-- A call of a router in a set-up. -/
def routing {α : Type} (wrap : RouterError → ServiceError)
    (call : StateM Node (Except RouterError α)) : Setup α := do
  match ← liftM call with
  | .ok a => return a
  | .error e => throw (wrap e)

/-- Opens the router of a source with the identity `id`. -/
def openRouter (id : Nat) (source : String) : Setup Router := do
  let node ← get
  let (r, registry) ← routing (.opening source)
    (Router.open_ Node.storeAccess node.registry id ⟨source⟩)
  modify fun n => { n with registry := registry }
  return r

/-- Opens the router of a source and sets up its entry. -/
def configure (id : Nat) (setting : RouterSetting) : Setup Router := do
  let r ← openRouter id setting.source
  discard <| routing .routing (r.setStrategy Node.storeAccess setting.strategy)
  for route in setting.routes do
    discard <| routing .routing (r.addRoute Node.storeAccess ⟨route.target⟩ route.keys)
  return r

/-- The message of a setting. -/
def seedMessage (id : Uuid) (s : SeedMessage) : Message :=
  let m := Message.new id (Utf8.encode s.body)
  match s.routingKey with
  | some key => m.withRoutingKey key
  | none => m

/-- Puts a message to begin with on its source. -/
def seed (id : Uuid) (s : SeedMessage) : Setup Unit := do
  let result ← liftM (Node.useTransport fun t => t.enqueue ⟨s.source⟩ (seedMessage id s))
  match result with
  | .ok () => return ()
  | .error e => throw (.seeding e)

/-- The loop of a router, about to run on a thread of its own. -/
def runOf (c : Config) (r : Router) : Run :=
  Loop.start { id := r.id, source := r.channel, config := c.loops }
    (threadNameFor ("router-" ++ r.channel.name))

/-- The targets of a configuration. -/
def targetsOf (c : Config) : SortedSet ChannelKey :=
  .ofList (c.routers.flatMap fun r => r.routes.map fun route => ⟨route.target⟩)

/-- Sets up the routers, the messages to begin with, whose identifiers `id` gives, and
closes the sources. -/
def setup (c : Config) (id : Nat → Uuid) : Setup (List Router) := do
  let routers ← c.routers.zipIdx.mapM fun (setting, i) => configure i setting
  c.seeds.zipIdx.forM fun (s, i) => seed (id i) s
  for r in routers do
    liftM (Node.useTransport fun t => ((), t.close r.channel))
  return routers

/-- The service of a configuration, before its first step. -/
def start (c : Config) (id : Nat → Uuid) : Except ServiceError Service :=
  match ((setup c id).run).run { store := .ofKind c.store } with
  | (.error e, _) => .error e
  | (.ok routers, node) =>
    .ok { node := node, runs := routers.map (runOf c), targets := targetsOf c }

/-- A step of the loop at a place; a loop that waits or has stopped does not move. -/
def step (s : Service) (i : Nat) : Service :=
  match s.runs[i]? with
  | none => s
  | some r =>
    let (r', node) := (r.step Node.loopAccess).run s.node
    { s with node := node, runs := s.runs.set i (r'.getD r) }

/-- More steps than a loop on a closed source takes: a few for itself and for each
message, and some for each target of a message. -/
def patience (s : Service) (r : Run) : Nat :=
  let queued := (s.node.transport.queue r.loop.source).messages.length
  let routes := ((s.node.store.entry? r.loop.source).elim [] Entry.routes).length
  4 + (queued + 1) * (4 + 3 * routes)

/-- Lets the loop at a place run until it waits or has stopped. -/
def exhaust (s : Service) (i : Nat) : Service :=
  match s.runs[i]? with
  | none => s
  | some r =>
    let (r', node) := (r.advance Node.loopAccess (s.patience r)).run s.node
    { s with node := node, runs := s.runs.set i r' }

/-- Lets one loop after another run. -/
def settle (s : Service) : Service := (List.range s.runs.length).foldl exhaust s

/-- How many messages arrived at each configured target. -/
def deliveries (s : Service) : List (ChannelKey × Nat) :=
  s.targets.toList.map fun t => (t, (s.node.transport.queue t).messages.length)

/-- The outcomes of the loops that have stopped. -/
def outcomes (s : Service) : List (String × Except LoopError LoopStats) :=
  s.runs.filterMap fun r => r.outcome?.map fun o => (r.thread, o)

/-- The counters of all loops that drained their source. -/
def totals (s : Service) : LoopStats :=
  s.outcomes.foldl (fun total o =>
    match o.2 with
    | .ok stats =>
      { received := total.received + stats.received
        forwarded := total.forwarded + stats.forwarded
        dropped := total.dropped + stats.dropped
        sendErrors := total.sendErrors ++ stats.sendErrors }
    | .error _ => total) {}

end Service

end ChannelRouting
