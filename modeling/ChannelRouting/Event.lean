import ChannelRouting.Frame
import ChannelRouting.Loop.Outcome
import ChannelRouting.Strategy
import ChannelRouting.Text.Quoted

/-!
# Observed events

What the parts of the library report while they work. An event has a level, a
message, a name and a component, and fields with texts, counts or identities.
Identities tell routers and loops apart and mean nothing otherwise.

An observer asks for the events up to a level, the most verbose being `debug`.
-/

namespace ChannelRouting

/-- How much an event matters; each level takes in the ones before it. -/
inductive Level where
  | error
  | warn
  | info
  | debug
deriving DecidableEq, Inhabited

namespace Level

/-- The place of a level, the weightiest first. -/
def rank : Level → Nat
  | error => 0
  | warn => 1
  | info => 2
  | debug => 3

/-- Whether an observer of the level `self` is told of events of another level. -/
def includes (kept of : Level) : Bool := of.rank ≤ kept.rank

/-- The name by which a level is chosen. -/
def ofName? : String → Option Level
  | "error" => some error
  | "warn" => some warn
  | "info" => some info
  | "debug" => some debug
  | _ => none

def shown : Level → String
  | error => "ERROR"
  | warn => "WARN"
  | info => "INFO"
  | debug => "DEBUG"

end Level

/-- A loop at work: its identity, the thread it runs on and its source. -/
structure Worker where
  id : Nat
  thread : String
  source : ChannelKey
deriving DecidableEq

/-- Why a message has no target. -/
inductive DropReason where
  | noStrategy
  | noMatchingRoute
deriving DecidableEq

def DropReason.name : DropReason → String
  | noStrategy => "no_strategy"
  | noMatchingRoute => "no_matching_route"

/-- What the parts of the library report. -/
inductive Event where
  | entryCreated (channel : ChannelKey)
  | entryAbsent (channel : ChannelKey)
  | swapRefused (channel : ChannelKey) (attempt : Nat)
  | swapsExhausted (channel : ChannelKey) (attempts : Nat)
  | routerOpened (channel : ChannelKey) (router : Nat)
  | routerClosed (channel : ChannelKey) (router : Nat)
  | closedRouterCalled (channel : ChannelKey) (router : Nat)
  | routeAdding (channel target : ChannelKey) (keys : List String)
  | routeRemoving (channel target : ChannelKey) (keys : List String)
  | strategySetting (channel : ChannelKey) (strategy : Option Strategy)
  | loopStarted (worker : Worker)
  | loopDrained (worker : Worker) (stats : LoopStats)
  | loopFailed (worker : Worker) (error : LoopError)
  | received (worker : Worker) (message : Message)
  | receiveFailed (worker : Worker) (error : TransportError)
  | entryMissing (worker : Worker)
  | entryUnreadable (worker : Worker) (error : StoreError)
  | dropped (worker : Worker) (message : Message) (reason : DropReason)
  | sendAttempted (worker : Worker) (target : ChannelKey) (message : Message)
  | targetUnopened (worker : Worker) (target : ChannelKey) (message : Message)
      (error : TransportError)
  | sendFailed (worker : Worker) (target : ChannelKey) (message : Message)
      (error : TransportError)
  | sendSucceeded (worker : Worker) (target : ChannelKey) (message : Message)
  | threadRenamed (requested fallback : String)
  | threadSpawned (worker : Worker)
  | receiptWritten (id : String) (command : Command)
  | receiptUnwritten (id : String) (error : TransportError)
  | faultRaised (command : Command) (fault : ClientFault)
deriving DecidableEq

namespace Event

def level : Event → Level
  | routerOpened .. | routerClosed .. | loopStarted .. | loopDrained .. | threadSpawned .. => .info
  | swapsExhausted .. | loopFailed .. | receiveFailed .. | entryMissing .. | entryUnreadable ..
  | targetUnopened .. | sendFailed .. | threadRenamed .. | receiptUnwritten .. => .warn
  | _ => .debug

def message : Event → String
  | entryCreated .. => "created route table entry"
  | entryAbsent .. => "mutation skipped for absent entry"
  | swapRefused .. => "entry changed during mutation; retrying"
  | swapsExhausted .. => "giving up on contended mutation"
  | routerOpened .. => "router opened"
  | routerClosed .. => "router closed"
  | closedRouterCalled .. => "rejecting call on closed router"
  | routeAdding .. => "adding route"
  | routeRemoving .. => "removing route"
  | strategySetting .. => "setting routing strategy"
  | loopStarted .. => "routing loop draining source"
  | loopDrained .. => "source drained; routing loop stopped"
  | loopFailed .. => "routing loop stopped on failure"
  | received .. => "received message from source"
  | receiveFailed .. => "receive from source failed"
  | entryMissing .. => "routing table entry is absent"
  | entryUnreadable .. => "unable to read routing table entry"
  | dropped .. => "dropping message without targets"
  | sendAttempted .. => "attempting forward"
  | targetUnopened .. => "unable to open target channel"
  | sendFailed .. => "forward failed"
  | sendSucceeded .. => "forward succeeded"
  | threadRenamed .. => "using fallback routing loop thread name"
  | threadSpawned .. => "routing loop thread spawned"
  | receiptWritten .. => "receipt written"
  | receiptUnwritten .. => "failed to write receipt"
  | faultRaised .. => "handler raised client fault"

/-- The name and the component of an event. -/
def origin : Event → String × String
  | entryCreated .. => ("route_entry_created", "route_store")
  | entryAbsent .. => ("route_entry_absent", "route_store")
  | swapRefused .. => ("route_cas_conflict", "optimistic_store")
  | swapsExhausted .. => ("route_cas_exhausted", "optimistic_store")
  | routerOpened .. => ("router_open", "router")
  | routerClosed .. => ("router_close", "router")
  | closedRouterCalled .. => ("router_closed_call", "router")
  | routeAdding .. => ("route_add", "router")
  | routeRemoving .. => ("route_remove", "router")
  | strategySetting .. => ("route_strategy_set", "router")
  | loopStarted .. => ("loop_start", "routing_loop")
  | loopDrained .. | loopFailed .. => ("loop_stop", "routing_loop")
  | received .. => ("loop_receive", "routing_loop")
  | receiveFailed .. => ("loop_receive_failed", "routing_loop")
  | entryMissing .. | entryUnreadable .. => ("loop_entry_read_failed", "routing_loop")
  | dropped .. => ("loop_drop_no_target", "routing_loop")
  | sendAttempted .. => ("loop_send_attempt", "routing_loop")
  | targetUnopened .. | sendFailed .. => ("loop_send_failed", "routing_loop")
  | sendSucceeded .. => ("loop_send_ok", "routing_loop")
  | threadRenamed .. => ("runtime_thread_name_fallback", "worker_runtime")
  | threadSpawned .. => ("runtime_spawn_ok", "worker_runtime")
  | receiptWritten .. => ("receipt_write", "receipt_handler")
  | receiptUnwritten .. => ("receipt_write_failed", "receipt_handler")
  | faultRaised .. => ("client_fault", "receipt_handler")

/-- The value of a field. -/
inductive Value where
  | text (s : String)
  | count (n : Nat)
  | identity (n : Nat)
deriving DecidableEq

/-- The field that holds a channel key. -/
def channelField (k : ChannelKey) : String × Value := ("channel_key", .text k.name)

/-- The fields of a loop whose thread is not shown. -/
def loopFields (w : Worker) : List (String × Value) :=
  [("worker_id", .identity w.id), channelField w.source]

/-- The fields of a loop with its thread. -/
def threadFields (w : Worker) : List (String × Value) :=
  ("worker_thread", .text w.thread) :: loopFields w

/-- The fields of a send to a target. -/
def sendFields (w : Worker) (target : ChannelKey) (m : Message) : List (String × Value) :=
  loopFields w ++ [("target_key", .text target.name), ("msg_id", .text m.id.toString)]

/-- The fields of a message taken off a source. -/
def messageFields (w : Worker) (m : Message) : List (String × Value) :=
  loopFields w ++ [("msg_id", .text m.id.toString), ("routing_key", .text m.shownRoutingKey)]

def fields : Event → List (String × Value)
  | entryCreated k => [channelField k]
  | entryAbsent k => [channelField k]
  | swapRefused k attempt => [channelField k, ("attempt", .count attempt)]
  | swapsExhausted k attempts => [channelField k, ("attempts", .count attempts)]
  | routerOpened k r => [channelField k, ("router_id", .identity r)]
  | routerClosed k r => [channelField k, ("router_id", .identity r)]
  | closedRouterCalled k r => [channelField k, ("router_id", .identity r)]
  | routeAdding k target keys =>
    [channelField k, ("target_key", .text target.name),
     ("routing_keys", .text (Text.quotedList keys))]
  | routeRemoving k target keys =>
    [channelField k, ("target_key", .text target.name),
     ("routing_keys", .text (Text.quotedList keys))]
  | strategySetting k s =>
    [channelField k, ("strategy", .text (Text.optional (s.map Strategy.name)))]
  | loopStarted w => threadFields w
  | loopDrained w stats =>
    threadFields w ++
      [("reason", .text "source_drained"), ("received", .count stats.received),
       ("forwarded", .count stats.forwarded), ("dropped", .count stats.dropped),
       ("send_failures", .count stats.sendErrors.length)]
  | loopFailed w e => threadFields w ++ [("err", .text e.text)]
  | received w m => messageFields w m
  | receiveFailed w e => loopFields w ++ [("err", .text e.message)]
  | entryMissing w => loopFields w ++ [("reason", .text "entry_absent")]
  | entryUnreadable w e => loopFields w ++ [("err", .text e.message)]
  | dropped w m reason => messageFields w m ++ [("reason", .text reason.name)]
  | sendAttempted w target m => sendFields w target m
  | targetUnopened w target m e => sendFields w target m ++ [("err", .text e.message)]
  | sendFailed w target m e => sendFields w target m ++ [("err", .text e.message)]
  | sendSucceeded w target m => sendFields w target m
  | threadRenamed requested fallback =>
    [("requested", .text (Text.quoted requested)), ("fallback", .text fallback),
     ("reason", .text "invalid_thread_name")]
  | threadSpawned w => threadFields w
  | receiptWritten id command => [("receipt_id", .text id), ("command", .text command.name)]
  | receiptUnwritten id e => [("receipt_id", .text id), ("err", .text e.message)]
  | faultRaised command fault =>
    [("command", .text command.name), ("fault", .text fault.message)]

end Event

end ChannelRouting
