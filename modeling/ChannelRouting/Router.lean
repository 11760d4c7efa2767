import ChannelRouting.Store

/-!
# Routers

A router is one caller's handle onto the entry of a channel. Any number of them
may be open for one channel. Opening makes sure that an entry exists and never
replaces one; closing disables the handle and leaves the entry alone.

A registry knows the handles that are neither closed nor dropped. A call on a
closed handle is refused before the store is asked. A loop for the channel of an
open handle reads the store itself, so it outlives the handle.
-/

namespace ChannelRouting

/-- A handle onto the entry of one channel. -/
structure Router where
  id : Nat
  channel : ChannelKey
  closed : Bool := false
deriving DecidableEq

/-- The handles that are open, by identity. -/
structure Registry where
  live : SortedMap Nat ChannelKey := .empty

namespace Registry

/-- The registry with a handle added. -/
def attach (g : Registry) (r : Router) : Registry := { live := g.live.insert r.id r.channel }

/-- The registry without a handle. -/
def detach (g : Registry) (r : Router) : Registry := { live := g.live.erase r.id }

def count (g : Registry) : Nat := g.live.size

def keys (g : Registry) : SortedSet ChannelKey := .ofList g.live.values

end Registry

/-- Why a call on a router failed. -/
inductive RouterError where
  | closed (key : ChannelKey)
  | store (error : StoreError)
deriving DecidableEq

namespace RouterError

def message : RouterError → String
  | closed key => "router for `" ++ key.name ++ "` is closed"
  | store e => e.message

end RouterError

namespace Router

variable {σ : Type}

/-- Opens a handle with the identity `id`. -/
def open_ (p : Store.Access σ) (g : Registry) (id : Nat) (channel : ChannelKey) :
    StateM σ (Except RouterError (Router × Registry)) := do
  match ← p.putIfAbsent (.empty channel) with
  | .error e => return .error (.store e)
  | .ok _ =>
    let r : Router := { id := id, channel := channel }
    p.emit (.routerOpened channel id)
    return .ok (r, g.attach r)

/-- Closes a handle; a second time this does nothing. -/
def close (p : Store.Access σ) (g : Registry) (r : Router) : StateM σ (Router × Registry) := do
  if r.closed then return (r, g)
  p.emit (.routerClosed r.channel r.id)
  return ({ r with closed := true }, g.detach r)

/-- The registry after a handle is gone. -/
def drop (g : Registry) (r : Router) : Registry := g.detach r

/-- A call that needs the handle to be open. -/
def whenOpen {α : Type} (p : Store.Access σ) (r : Router)
    (call : StateM σ (Except RouterError α)) : StateM σ (Except RouterError α) := do
  if r.closed then
    p.emit (.closedRouterCalled r.channel r.id)
    return .error (.closed r.channel)
  call

/-- A store's answer as a router's. -/
def answer {α : Type} : Except StoreError α → Except RouterError α := Except.mapError .store

/-- A mutation of the handle's entry, announced by an event. -/
def mutate (p : Store.Access σ) (r : Router) (announcement : Event) (m : Mutation) :
    StateM σ (Except RouterError (Option Entry)) :=
  whenOpen p r do
    p.emit announcement
    return answer (← p.execute r.channel m)

/-- Adds a target or extends its keys. -/
def addRoute (p : Store.Access σ) (r : Router) (target : ChannelKey) (keys : List String) :
    StateM σ (Except RouterError (Option Entry)) :=
  mutate p r (.routeAdding r.channel target keys) (.addRoute target keys)

/-- Takes keys from a target, or the target away. -/
def removeRoute (p : Store.Access σ) (r : Router) (target : ChannelKey) (keys : List String) :
    StateM σ (Except RouterError (Option Entry)) :=
  mutate p r (.routeRemoving r.channel target keys) (.removeRoute target keys)

/-- Sets the strategy, or takes it away. -/
def setStrategy (p : Store.Access σ) (r : Router) (strategy : Option Strategy) :
    StateM σ (Except RouterError (Option Entry)) :=
  mutate p r (.strategySetting r.channel strategy) (.setStrategy strategy)

/-- The entry, if the store has one. -/
def entry (p : Store.Access σ) (r : Router) : StateM σ (Except RouterError (Option Entry)) :=
  whenOpen p r do return answer (← p.get r.channel)

/-- The routes, none without an entry. -/
def routes (p : Store.Access σ) (r : Router) : StateM σ (Except RouterError (List Route)) := do
  return (← r.entry p).map fun e => e.elim [] Entry.routes

/-- The strategy, if there is an entry that has one. -/
def strategy (p : Store.Access σ) (r : Router) :
    StateM σ (Except RouterError (Option Strategy)) := do
  return (← r.entry p).map fun e => e.bind Entry.strategy

/-- A loop for the handle's channel, which `make` makes. -/
def loop {α : Type} (p : Store.Access σ) (r : Router) (make : ChannelKey → StateM σ α) :
    StateM σ (Except RouterError α) :=
  whenOpen p r do return .ok (← make r.channel)

end Router

end ChannelRouting
