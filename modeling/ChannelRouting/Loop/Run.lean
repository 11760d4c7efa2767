import ChannelRouting.Event
import ChannelRouting.Loop.Config
import ChannelRouting.Entry

/-!
# Routing loops

A loop drains one source. For each message it reads the entry of the source,
finds the targets, and sends the message to one after another in ascending order.
A target that cannot be opened or sent to is noted and does not stop the others.
The loop stops when the source has no message for it, or when the source or the
entry fails it.

A run is a machine that asks one thing at a time of its surroundings: to open a
channel, to receive, to read the entry, to send. An answer to opening, receiving
and sending may have to wait; the run then stays where it is. Whatever the run
has opened it releases before it goes on to the next message, target or end.
-/

namespace ChannelRouting

/-- Whether a loop has not finished a run yet. -/
inductive LoopState where
  | draining
  | stopped
deriving DecidableEq, Inhabited

/-- A loop bound to one source. -/
structure Loop where
  id : Nat
  source : ChannelKey
  config : LoopConfig := {}
  state : LoopState := .draining
  stats : LoopStats := {}
deriving DecidableEq

namespace Loop

/-- What surrounds a loop. An answer `none` means that the caller has to wait. -/
structure Access (σ : Type) where
  openChannel : ChannelKey → StateM σ (Option (Except TransportError Unit))
  receive : ChannelKey → WaitPolicy →
    StateM σ (Option (Except TransportError (Option Message)))
  readEntry : ChannelKey → StateM σ (Except StoreError (Option Entry))
  send : ChannelKey → Message → WaitPolicy → StateM σ (Option (Except TransportError Unit))
  release : ChannelKey → StateM σ Unit
  emit : Event → StateM σ Unit

/-- How far a run has come. -/
inductive Phase where
  /-- Not begun. -/
  | ready
  /-- Opening the source. -/
  | opening
  | receiving
  /-- A message was received and the entry is to be read. -/
  | reading (m : Message)
  /-- The message is to be sent to the targets. -/
  | forwarding (m : Message) (targets : List ChannelKey)
  /-- Opening the first of the targets. -/
  | reaching (m : Message) (target : ChannelKey) (rest : List ChannelKey)
  | sending (m : Message) (target : ChannelKey) (rest : List ChannelKey)
  | finished (outcome : Except LoopError LoopStats)

end Loop

/-- A run of a loop on a thread. -/
structure Run where
  loop : Loop
  thread : String
  phase : Loop.Phase := .ready

namespace Run

/-- The run as events show it. -/
def worker (r : Run) : Worker := { id := r.loop.id, thread := r.thread, source := r.loop.source }

/-- The run with other counters, gone on to another phase. -/
def goOn (r : Run) (stats : LoopStats) (phase : Loop.Phase) : Run :=
  { r with loop := { r.loop with stats := stats }, phase := phase }

/-- The outcome, once there is one. -/
def outcome? (r : Run) : Option (Except LoopError LoopStats) :=
  match r.phase with
  | .finished outcome => some outcome
  | _ => none

/-- The channels of which the run holds a handle. -/
def held (r : Run) : List ChannelKey :=
  match r.phase with
  | .ready | .opening | .finished _ => []
  | .receiving | .reading _ | .forwarding .. | .reaching .. => [r.loop.source]
  | .sending _ target _ => [target, r.loop.source]

variable {σ : Type}

/-- The end of a run: the loop is stopped and reports why. -/
def finish (p : Loop.Access σ) (r : Run) (outcome : Except LoopError LoopStats) :
    StateM σ Run := do
  match outcome with
  | .ok stats => p.emit (.loopDrained r.worker stats)
  | .error e => p.emit (.loopFailed r.worker e)
  return { r with loop := { r.loop with state := .stopped }, phase := .finished outcome }

/-- The end of a run that has opened its source. -/
def leave (p : Loop.Access σ) (r : Run) (outcome : Except LoopError LoopStats) :
    StateM σ Run := do
  p.release r.loop.source
  finish p r outcome

/-- What follows when the source answered a receive. -/
def afterReceive (p : Loop.Access σ) (r : Run) :
    Except TransportError (Option Message) → StateM σ Run
  | .ok (some m) => do
    p.emit (.received r.worker m)
    return r.goOn { r.loop.stats with received := r.loop.stats.received + 1 } (.reading m)
  | .ok none => leave p r (.ok r.loop.stats)
  | .error e => do
    p.emit (.receiveFailed r.worker e)
    leave p r (.error (.receive e))

/-- What follows when the entry was found. -/
def afterRead (p : Loop.Access σ) (r : Run) (m : Message) (e : Entry) : StateM σ Run := do
  let targets := e.targets m
  if targets.isEmpty then
    let reason := if e.strategy.isSome then .noMatchingRoute else .noStrategy
    p.emit (.dropped r.worker m reason)
    return r.goOn { r.loop.stats with dropped := r.loop.stats.dropped + 1 } .receiving
  return r.goOn r.loop.stats (.forwarding m targets.toList)

/-- The run after a target could not be reached, which it notes. -/
def noteFailure (r : Run) (m : Message) (target : ChannelKey) (rest : List ChannelKey)
    (e : TransportError) : Run :=
  let failure : SendFailure := { target := target, messageId := m.id, error := e }
  r.goOn { r.loop.stats with sendErrors := r.loop.stats.sendErrors ++ [failure] }
    (.forwarding m rest)

/-- What follows when a target answered a send. -/
def afterSend (p : Loop.Access σ) (r : Run) (m : Message) (target : ChannelKey)
    (rest : List ChannelKey) : Except TransportError Unit → StateM σ Run
  | .ok () => do
    p.emit (.sendSucceeded r.worker target m)
    p.release target
    return r.goOn { r.loop.stats with forwarded := r.loop.stats.forwarded + 1 }
      (.forwarding m rest)
  | .error e => do
    p.emit (.sendFailed r.worker target m e)
    p.release target
    return r.noteFailure m target rest e

/-- One step of a run; `none` if it has to wait or has finished. -/
def step (p : Loop.Access σ) (r : Run) : StateM σ (Option Run) :=
  match r.phase with
  | .ready => do
    p.emit (.loopStarted r.worker)
    return some { r with phase := .opening }
  | .opening => do
    match ← p.openChannel r.loop.source with
    | none => return none
    | some (.ok ()) => return some { r with phase := .receiving }
    | some (.error e) => some <$> finish p r (.error (.open_ e))
  | .receiving => do
    match ← p.receive r.loop.source r.loop.config.receiveWait with
    | none => return none
    | some answer => some <$> afterReceive p r answer
  | .reading m => do
    match ← p.readEntry r.loop.source with
    | .ok (some e) => some <$> afterRead p r m e
    | .ok none =>
      p.emit (.entryMissing r.worker)
      some <$> leave p r (.error (.entryAbsent r.loop.source m))
    | .error e =>
      p.emit (.entryUnreadable r.worker e)
      some <$> leave p r (.error (.store e m))
  | .forwarding _ [] => return some { r with phase := .receiving }
  | .forwarding m (target :: rest) => do
    p.emit (.sendAttempted r.worker target m)
    return some { r with phase := .reaching m target rest }
  | .reaching m target rest => do
    match ← p.openChannel target with
    | none => return none
    | some (.ok ()) => return some { r with phase := .sending m target rest }
    | some (.error e) =>
      p.emit (.targetUnopened r.worker target m e)
      return some (r.noteFailure m target rest e)
  | .sending m target rest => do
    match ← p.send target m r.loop.config.sendWait with
    | none => return none
    | some answer => some <$> afterSend p r m target rest answer
  | .finished _ => return none

/-- The run after as many steps as it can take without waiting, `fuel` at most. -/
def advance (p : Loop.Access σ) : (fuel : Nat) → Run → StateM σ Run
  | 0, r => return r
  | fuel + 1, r => do
    match ← step p r with
    | some r' => advance p fuel r'
    | none => return r

end Run

/-- Begins a run of a loop on a thread. -/
def Loop.start (l : Loop) (thread : String) : Run := { loop := l, thread := thread }

end ChannelRouting
