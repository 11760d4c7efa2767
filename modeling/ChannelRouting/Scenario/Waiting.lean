import ChannelRouting.Scenario.World

/-!
# Waiting calls

Receives and sends that may have to wait, made of attempts. A call that finds
nothing to do registers as a waiter behind the others; whoever makes room or
brings a message tells the first waiter that was not told yet, and closing or
emptying a channel tells all of them. A call that is told tries again and, if
somebody else was faster, registers anew at the end.
-/

namespace ChannelRouting.Scenario

/-- What a queued fault makes of a call. -/
inductive Strike where
  | passes
  | fails (e : TransportError)
  | breaks

/-- Counts down the first fault that matches a call; a fault whose count is over is
gone and strikes. -/
def countDown {F : Type} (isFor : F → Bool) (after : F → Nat) (later : F → F) :
    List F → Option F × List F
  | [] => (none, [])
  | f :: rest =>
    if isFor f then
      if after f = 0 then (some f, rest) else (none, later f :: rest)
    else
      let (struck, rest) := countDown isFor after later rest
      (struck, f :: rest)

/-- Whether a call of a channel is struck by a fault. -/
def strikeChannel (call : ChannelCall) (key : ChannelKey) : Step Strike := modifyGet fun w =>
  let (struck, faults) := countDown (fun f => f.call = call && f.key = key) ChannelFault.after
    (fun f => { f with after := f.after - 1 }) w.channelFaults
  let w := { w with channelFaults := faults }
  match struck with
  | none => (.passes, w)
  | some { error := some e, .. } => (.fails e, w)
  | some { error := none, .. } => (.breaks, { w with broke := true })

/-- Whether a call of the store is struck by a fault. -/
def strikeStore (call : StoreCall) : Step (Option StoreError) := modifyGet fun w =>
  let (struck, faults) := countDown (fun f => f.call = call) StoreFault.after
    (fun f => { f with after := f.after - 1 }) w.storeFaults
  (struck.map fun f => .unavailable f.text, { w with storeFaults := faults })

/-- Lets an actor go on. Workers are looked after when they are joined. -/
def wake (a : Actor) : Step Unit := modify fun w =>
  match a with
  | .foreground => { w with woken := true }
  | .task n => if n ∈ w.ready then w else { w with ready := w.ready ++ [n] }
  | .worker _ => w

/-- Tells the first waiter that was not told yet. -/
def notifyOne (key : ChannelKey) (side : Side) : Step Unit := do
  let w ← get
  match w.waiters.find? (fun x => x.key = key && x.side = side && x.notice = .none) with
  | none => return ()
  | some x =>
    set { w with waiters :=
      w.waiters.map fun (y : Waiter) => if y.actor = x.actor then { y with notice := .one } else y }
    wake x.actor

/-- Tells every waiter that was not told yet. -/
def notifyAll (key : ChannelKey) (side : Side) : Step Unit := do
  let w ← get
  let isMeant := fun (x : Waiter) => x.key = key && x.side = side && x.notice = .none
  set { w with waiters :=
    w.waiters.map fun (x : Waiter) => if isMeant x then { x with notice := .all } else x }
  for x in w.waiters.filter isMeant do wake x.actor

/-- The waiting call of an actor. -/
def waiter? (w : World) (a : Actor) : Option Waiter := w.waiters.find? (fun x => x.actor = a)

/-- Takes the waiting call of an actor off the list. -/
def unregister (a : Actor) : Step Unit := modify fun w =>
  { w with waiters := w.waiters.filter fun x => x.actor ≠ a }

/-- Gives up the waiting call of an actor. News that only it was told goes to the
next waiter. -/
def abandon (a : Actor) : Step Unit := do
  match waiter? (← get) a with
  | none => return ()
  | some x =>
    unregister a
    if x.notice = .one then notifyOne x.key x.side

/-- Registers a waiting call behind the others. -/
def register (x : Waiter) : Step Unit := modify fun w => { w with waiters := w.waiters ++ [x] }

/-- Whether a moment has come. -/
def isPast (w : World) (deadline : Option Nat) : Bool := deadline.any (· ≤ w.now)

/-- The moment at which a wait that begins now is over. -/
def deadlineOf (w : World) (wait : WaitPolicy) : Option Nat :=
  wait.limit.map fun d => w.now + d.toNanos

/-- One attempt of a receive. -/
def attemptReceive (a : Actor) (key : ChannelKey) (deadline : Option Nat) :
    Step (Option (Except TransportError (Option Message))) := do
  let w ← get
  let (result, t) := w.recording.transport.tryReceive key
  set { w with recording := { w.recording with transport := t } }
  match result with
  | some (some m) =>
    notifyOne key .writing
    return some (.ok (some m))
  | some none => return some (.ok none)
  | none =>
    if isPast w deadline then return some (.ok none)
    register { actor := a, key := key, side := .reading, deadline := deadline }
    return none

/-- One attempt of a send. -/
def attemptSend (a : Actor) (key : ChannelKey) (m : Message) (wait : WaitPolicy)
    (deadline : Option Nat) : Step (Option (Except TransportError Unit)) := do
  let w ← get
  let (result, r) := w.recording.trySend key m
  set { w with recording := r }
  match result with
  | some (.ok ()) =>
    notifyOne key .reading
    return some (.ok ())
  | some (.error e) => return some (.error e)
  | none =>
    if isPast w deadline then return some (.error (.ofWait key wait))
    register { actor := a, key := key, side := .writing, deadline := deadline }
    return none

/-- A receive, begun or gone on with. -/
def receive (a : Actor) (key : ChannelKey) (wait : WaitPolicy) :
    Step (Option (Except TransportError (Option Message))) := do
  let w ← get
  match waiter? w a with
  | some x =>
    if x.notice ≠ .none then
      unregister a
      attemptReceive a key x.deadline
    else if isPast w x.deadline then
      unregister a
      return some (.ok none)
    else return none
  | none =>
    match ← strikeChannel .receiving key with
    | .fails e => return some (.error e)
    | .breaks => return none
    | .passes => attemptReceive a key (deadlineOf w wait)

/-- A send, begun or gone on with. A channel marked as failing refuses before the
wait begins. -/
def send (a : Actor) (key : ChannelKey) (m : Message) (wait : WaitPolicy) :
    Step (Option (Except TransportError Unit)) := do
  let w ← get
  match waiter? w a with
  | some x =>
    if x.notice ≠ .none then
      unregister a
      attemptSend a key m wait x.deadline
    else if isPast w x.deadline then
      unregister a
      return some (.error (.ofWait key wait))
    else return none
  | none =>
    match ← strikeChannel .sending key with
    | .fails e => return some (.error e)
    | .breaks => return none
    | .passes =>
      match w.recording.injected? key with
      | some e => return some (.error e)
      | none => attemptSend a key m wait (deadlineOf w wait)

/-- Opens a channel; `none` if the call broke off. -/
def openChannel (key : ChannelKey) : Step (Option (Except TransportError Handle)) := do
  match ← strikeChannel .opening key with
  | .fails e => return some (.error e)
  | .breaks => return none
  | .passes =>
    modifyGet fun w =>
      let (h, r) := w.recording.open_ key
      (some (.ok h), { w with recording := r })

/-- Releases a handle. -/
def releaseHandle (h : Handle) : Step Handle := modifyGet fun w =>
  let (h, r) := w.recording.release h
  (h, { w with recording := r })

end ChannelRouting.Scenario
