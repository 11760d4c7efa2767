import ChannelRouting.Strategy

/-!
# Routing-table entries

An entry is the whole routing configuration of one source channel: its
strategy, if one is set, and its routes in the order in which their targets were
added. Entries are values; a change builds a new one.

`Entry.WellFormed` is what mutations keep: one route for each target, and no
route without keys. An entry read from its wire form need not be well formed.
-/

namespace ChannelRouting

/-- The routing configuration of one source channel. -/
structure Entry where
  channel : ChannelKey
  strategy : Option Strategy
  routes : List Route
deriving DecidableEq

namespace Entry

def empty (channel : ChannelKey) : Entry :=
  { channel := channel, strategy := none, routes := [] }

instance : Inhabited Entry := ⟨empty default⟩

/-- The first route to a target. -/
def route? (e : Entry) (target : ChannelKey) : Option Route :=
  e.routes.find? (fun r => r.target = target)

/-- The keys of the first route to a target, none without a route. -/
def keysOf (e : Entry) (target : ChannelKey) : SortedSet String :=
  (e.route? target).elim .empty Route.keys

/-- A route put over the first one to its target, or behind all others. -/
def placeRoute (route : Route) : List Route → List Route
  | [] => [route]
  | r :: rest =>
    if r.target = route.target then route :: rest else r :: placeRoute route rest

def withRoute (e : Entry) (route : Route) : Entry :=
  { e with routes := placeRoute route e.routes }

def withoutRoute (e : Entry) (target : ChannelKey) : Entry :=
  { e with routes := e.routes.filter (fun r => r.target ≠ target) }

def withStrategy (e : Entry) (strategy : Option Strategy) : Entry :=
  { e with strategy := strategy }

/-- The targets of a message, none without a strategy. -/
def targets (e : Entry) (m : Message) : SortedSet ChannelKey :=
  match e.strategy with
  | some s => s.targets m e.routes
  | none => .empty

theorem targets_of_none {e : Entry} (h : e.strategy = none) (m : Message) :
    e.targets m = .empty := by
  rw [targets, h]

theorem targets_of_some {e : Entry} {s : Strategy} (h : e.strategy = some s) (m : Message) :
    e.targets m = s.targets m e.routes := by
  rw [targets, h]

/-- A message goes nowhere but where a route goes. -/
theorem exists_route_of_mem_targets {e : Entry} {m : Message} {t : ChannelKey}
    (h : t ∈ e.targets m) : ∃ r ∈ e.routes, r.target = t := by
  cases hs : e.strategy with
  | none =>
    rw [targets_of_none hs] at h
    cases h
  | some s =>
    rw [targets_of_some hs] at h
    obtain ⟨r, hr, -, ht⟩ := Strategy.mem_targets.mp h
    exact ⟨r, hr, ht⟩

/-- One route for each target, and every route has a key. -/
structure WellFormed (e : Entry) : Prop where
  nodup : (e.routes.map Route.target).Nodup
  keyed : ∀ r ∈ e.routes, r.keys.isEmpty = false

instance (e : Entry) : Decidable e.WellFormed :=
  if h : (e.routes.map Route.target).Nodup ∧ ∀ r ∈ e.routes, r.keys.isEmpty = false then
    .isTrue ⟨h.1, h.2⟩
  else .isFalse fun w => h ⟨w.nodup, w.keyed⟩

end Entry

end ChannelRouting
