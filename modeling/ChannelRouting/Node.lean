import ChannelRouting.Loop.Run
import ChannelRouting.Router
import ChannelRouting.Transport

/-!
# Nodes

A node is a store and a transport of one process, with the registry of the routers
that are open. Routers and loops see it through an access each. There are two for
loops: one for a loop among others, whose calls wait for what the others do, and one
for a loop that has the node to itself, whose waits end as their policies say.
-/

namespace ChannelRouting

/-- A store and a transport with the routers that are open. -/
structure Node where
  store : Store
  transport : Transport := {}
  registry : Registry := {}

namespace Node

/-- Changes the store. -/
def useStore {α : Type} (use : Store → α × Store) : StateM Node α := modifyGet fun n =>
  let (a, s) := use n.store
  (a, { n with store := s })

/-- Changes the transport. -/
def useTransport {α : Type} (use : Transport → α × Transport) : StateM Node α :=
  modifyGet fun n =>
    let (a, t) := use n.transport
    (a, { n with transport := t })

/-- The store of a node as its routers see it. -/
def storeAccess : Store.Access Node where
  get key := useStore fun s => s.get key
  putIfAbsent e := useStore fun s => s.putIfAbsent e
  execute key m := useStore fun s => s.execute key m
  remove key := useStore fun s => s.remove key
  emit _ := pure ()

/-- Opens a channel for a loop. -/
def openChannel (key : ChannelKey) : StateM Node (Option (Except TransportError Unit)) :=
  useTransport fun t =>
    let (_, t) := t.open_ key
    (some (.ok ()), t)

/-- Releases the handle of a loop. -/
def releaseChannel (key : ChannelKey) : StateM Node Unit :=
  useTransport fun t =>
    let (_, t) := t.release { key := key }
    ((), t)

/-- A node as one of several loops sees it. A call that cannot settle at once waits
for the steps of the others, for how long is left open. -/
def loopAccess : Loop.Access Node where
  openChannel := openChannel
  receive key _ := useTransport fun t =>
    let (r, t) := t.tryReceive key
    (r.map .ok, t)
  readEntry key := useStore fun s => s.get key
  send key m _ := useTransport fun t => t.trySend key m
  release := releaseChannel
  emit _ := pure ()

/-- A node as a loop sees it that nobody else shares it with. A call that cannot
settle at once waits as long as its policy says, for ever if that is the policy, and
one whose wait would outlast the clock breaks off. -/
def soleLoopAccess : Loop.Access Node where
  openChannel := openChannel
  receive key wait := useTransport fun t =>
    let (r, t) := t.receiveAlone key wait
    (r.map .ok, t)
  readEntry key := useStore fun s => s.get key
  send key m wait := useTransport fun t => t.sendAlone key m wait
  release := releaseChannel
  emit _ := pure ()

end Node


end ChannelRouting
