import ChannelRouting.Loop.Run
import ChannelRouting.Router
import ChannelRouting.Transport.Recording

/-!
# The world of a scenario

A scenario is a script of calls on one store and one transport, some of them made
in the background. Its world holds the store, the transport, the calls that are
waiting, and a clock of its own: time moves only while every call is waiting, and
then jumps to the next moment at which one of them has waited long enough.

Faults are queued for single calls of the store and of channels. Interference is
queued for the swaps of an optimistic store: each item is what another node does
just before one swap.
-/

namespace ChannelRouting.Scenario

/-- Who makes a call: the script itself, one of its background tasks, or a loop on
a thread of its own. -/
inductive Actor where
  | foreground
  | task (n : Nat)
  | worker (n : Nat)
deriving DecidableEq

/-- What a waiting call wants of its channel. -/
inductive Side where
  | reading
  | writing
deriving DecidableEq

/-- How a waiting call was told to try again. -/
inductive Notice where
  | none
  /-- It alone, so the news is passed on if the call goes away. -/
  | one
  | all
deriving DecidableEq

/-- A call that is waiting on a channel. -/
structure Waiter where
  actor : Actor
  key : ChannelKey
  side : Side
  /-- The moment at which the call has waited long enough, in nanoseconds. -/
  deadline : Option Nat
  notice : Notice := .none

/-- The calls of a store. -/
inductive StoreCall where
  | get
  | put
  | execute
  | remove
deriving DecidableEq

/-- A failure of one call of the store, after some others have passed. -/
structure StoreFault where
  call : StoreCall
  after : Nat
  text : String

/-- The calls of a channel. -/
inductive ChannelCall where
  | opening
  | receiving
  | sending
deriving DecidableEq

/-- A failure of one call of a channel, after some others have passed. A call
without an error to report breaks off together with the task that made it. -/
structure ChannelFault where
  call : ChannelCall
  key : ChannelKey
  after : Nat
  error : Option TransportError

/-- What another node does just before a swap. -/
inductive Interference where
  | nothing
  | deletion
  | recreation
  | unavailable (text : String)
  | mutation (m : Mutation)

/-- A call that may have to wait. -/
inductive Call where
  | receive (handle : Nat) (key : ChannelKey) (wait : WaitPolicy)
  | send (handle : Nat) (key : ChannelKey) (m : Message) (wait : WaitPolicy)
  | run (r : Run)

/-- What a call answers. -/
inductive Reply where
  | received (result : Except TransportError (Option Message))
  | sent (id : Uuid) (result : Except TransportError Unit)
  | ran (loop : Loop) (result : Except LoopError LoopStats)

/-- How a call ended. -/
inductive Outcome where
  | replied (reply : Reply) (millis : Nat)
  /-- It was still waiting when its time was over. -/
  | blocked
  /-- It broke off. -/
  | broken

/-- A call in the background. -/
structure Task where
  call : Call
  started : Nat
  /-- The name of the loop that a run gives back. -/
  loopName : String := ""
  cancelled : Bool := false
  outcome : Option Outcome := none

/-- A loop on a thread of its own. -/
structure Spawned where
  run : Run
  broken : Bool := false

/-- What an observer was told. -/
structure Trace where
  kept : Option Level := none
  muted : Bool := false
  /-- The identities in recorded events, in order of first appearance. -/
  seen : List Nat := []
  recorded : List Event := []

/-- The world of a scenario. -/
structure World where
  store : Store := default
  recording : Recording := {}
  /-- Whether the journal of the transport may be looked into. -/
  records : Bool := false
  trace : Trace := {}
  /-- The clock, in nanoseconds. -/
  now : Nat := 0
  storeFaults : List StoreFault := []
  channelFaults : List ChannelFault := []
  interference : List Interference := []
  /-- The swaps that were tried. -/
  swaps : Nat := 0
  /-- The next identity of a router, loop, handle or task. -/
  fresh : Nat := 1
  waiters : List Waiter := []
  /-- The background tasks that can go on, in order. -/
  ready : List Nat := []
  /-- Whether the foreground call can go on. -/
  woken : Bool := false
  /-- Whether the call that was last taken up broke off. -/
  broke : Bool := false
  contexts : SortedMap String Nat := .ofList [("main", 0)]
  registries : SortedMap Nat Registry := .ofList [(0, {})]
  routers : SortedMap String (Router × Nat) := .empty
  handleNames : SortedMap String Nat := .empty
  handles : SortedMap Nat Handle := .empty
  loops : SortedMap String Loop := .empty
  taskNames : SortedMap String Nat := .empty
  tasks : SortedMap Nat Task := .empty
  workerNames : SortedMap String Nat := .empty
  workers : SortedMap Nat Spawned := .empty

/-- A name that a step of a script may use without its being bound, and the other
reasons for which a step is refused. -/
inductive Refusal where
  | noRouter
  | noContext
  | noHandle
  | noLoop
  | noWorker
  | noTask
  | noLength
  | notOptimistic
  | notRecording
deriving DecidableEq

def Refusal.message : Refusal → String
  | noRouter => "no such router"
  | noContext => "no such context"
  | noHandle => "no such handle"
  | noLoop => "no such loop"
  | noWorker => "no such worker"
  | noTask => "no such task"
  | noLength => "store has no len"
  | notOptimistic => "store is not optimistic"
  | notRecording => "transport does not record"

/-- A step of a script. -/
abbrev Step (α : Type) := StateM World α

/-- A number not given out before. -/
def freshId : Step Nat := modifyGet fun w => (w.fresh, { w with fresh := w.fresh + 1 })

/-- Tells the observer of an event. -/
def emit (e : Event) : Step Unit := modify fun w =>
  let t := w.trace
  if t.muted then w
  else
    match t.kept with
    | none => w
    | some level =>
      if level.includes e.level then
        let ids := e.fields.filterMap fun f =>
          match f.2 with
          | .identity n => if n ∈ t.seen then none else some n
          | _ => none
        { w with trace := { t with seen := t.seen ++ ids, recorded := t.recorded ++ [e] } }
      else w

/-- The events recorded since the last time they were asked for. -/
def takeEvents : Step (List Event) := modifyGet fun w =>
  (w.trace.recorded, { w with trace := { w.trace with recorded := [] } })

/-- The number of an identity: the distinct ones of recorded events count from 1. -/
def identityNumber (w : World) (n : Nat) : Nat := w.trace.seen.idxOf n + 1

/-- The whole milliseconds since a moment. -/
def millisSince (w : World) (moment : Nat) : Nat := (w.now - moment) / 1000000

end ChannelRouting.Scenario
