import ChannelRouting.Scenario.Waiting

/-!
# Taking calls up

Which call of a scenario goes on when. Background tasks that were told go on one
after another, in the order in which they were told, until none is left. The call
in the foreground is taken up first, then after every such round; when nothing can
go on, the clock jumps to the next moment at which some wait is over.

A fixed number of turns bounds every round. A scenario that would need more keeps
itself busy without end.
-/

namespace ChannelRouting.Scenario

/-- The turns after which a scenario counts as busy without end. -/
def patience : Nat := 100000

/-- Reads an entry, unless a fault strikes. -/
def readEntry (key : ChannelKey) : Step (Except StoreError (Option Entry)) := do
  match ← strikeStore .get with
  | some e => return .error e
  | none => return .ok ((← get).store.entry? key)

/-- What surrounds a loop that an actor runs. -/
def loopAccess (a : Actor) : Loop.Access World where
  openChannel key := do return (← openChannel key).map fun r => r.map fun _ => ()
  receive := receive a
  readEntry := readEntry
  send := send a
  release key := do discard <| releaseHandle { key := key }
  emit := emit

/-- Takes up a call: what is left of it, and its reply if it has one. -/
def takeUp (a : Actor) : Call → Step (Call × Option Reply)
  | call@(.receive _ key wait) => do
    return (call, (← receive a key wait).map .received)
  | call@(.send _ key m wait) => do
    return (call, (← send a key m wait).map (.sent m.id))
  | .run r => do
    let r ← r.advance (loopAccess a) patience
    return (.run r, r.outcome?.map (.ran r.loop))

/-- Gives up a call that will not go on. -/
def giveUp (a : Actor) (call : Call) : Step Unit := do
  abandon a
  match call with
  | .run r => for key in r.held do discard <| releaseHandle { key := key }
  | _ => return ()

/-- Whether the call of a running task uses a handle. -/
def Task.uses (t : Task) (handle : Nat) : Bool :=
  t.outcome.isNone &&
    match t.call with
    | .receive h _ _ => h = handle
    | .send h _ _ _ => h = handle
    | .run _ => false

/-- Whether a handle is still bound to a name or used by a task. -/
def inUse (w : World) (handle : Nat) : Bool :=
  w.handleNames.values.contains handle || w.tasks.values.any (·.uses handle)

/-- Releases the handles that nobody can use any more. -/
def releaseUnused : Step Unit := do
  let w ← get
  for (n, h) in w.handles.toList do
    unless inUse w n do
      discard <| releaseHandle h
      modify fun w => { w with handles := w.handles.erase n }

/-- Puts a task into another state. -/
def setTask (n : Nat) (t : Task) : Step Unit := modify fun w =>
  { w with tasks := w.tasks.insert n t }

/-- One turn of a background task. -/
def taskTurn (n : Nat) : Step Unit := do
  let w ← get
  match w.tasks.get? n with
  | none => return ()
  | some t =>
    if t.outcome.isSome then return ()
    if t.cancelled then
      giveUp (.task n) t.call
      modify fun w => { w with tasks := w.tasks.erase n }
      releaseUnused
    else
      let (call, reply) ← takeUp (.task n) t.call
      let w ← get
      if w.broke then
        set { w with broke := false }
        giveUp (.task n) call
        setTask n { t with call := call, outcome := some .broken }
        releaseUnused
      else
        let outcome := reply.map fun r => .replied r (millisSince w t.started)
        setTask n { t with call := call, outcome := outcome }
        if outcome.isSome then releaseUnused

/-- Lets background tasks go on until none can. -/
def runReady : (turns : Nat) → Step Unit
  | 0 => return ()
  | turns + 1 => do
    let w ← get
    match w.ready with
    | [] => return ()
    | n :: rest =>
      set { w with ready := rest }
      taskTurn n
      runReady turns

/-- Whether an actor's waits end with the clock of the scenario. -/
def followsClock : Actor → Bool
  | .worker _ => false
  | _ => true

/-- Jumps to the next moment at which some wait is over, `alarm` at the latest. -/
def jump (alarm : Nat) : Step Unit := do
  let w ← get
  let waits := w.waiters.filter fun x => followsClock x.actor
  let next := waits.foldl (fun t x => match x.deadline with | some d => min t d | none => t) alarm
  let w := { w with now := max w.now next }
  set { w with woken := w.woken || alarm ≤ w.now }
  for x in waits do
    if isPast w x.deadline then wake x.actor

/-- Takes up a foreground call until it ends, or until its time is over at `alarm`:
what is left of it and how it ended. -/
def awaitUntil {β α : Type} (alarm : Nat) (turn : β → Step (β × Option α)) :
    (turns : Nat) → β → Step (β × Option α)
  | 0, b => return (b, none)
  | turns + 1, b => do
    modify fun w => { w with woken := false }
    let (b, result) ← turn b
    let w ← get
    if result.isSome || w.broke || alarm ≤ w.now then return (b, result)
    runReady patience
    unless (← get).woken do jump alarm
    awaitUntil alarm turn turns b

/-- The longest a foreground call may wait: one hour, in nanoseconds. -/
def foregroundLimit : Nat := 3600000 * 1000000

/-- Takes up a call in the foreground until it ends or its time is over. -/
def inForeground (call : Call) : Step Outcome := do
  let start := (← get).now
  let (call, reply) ← awaitUntil (start + foregroundLimit) (takeUp .foreground) patience call
  let w ← get
  match reply with
  | some r => return .replied r (millisSince w start)
  | none =>
    set { w with broke := false }
    giveUp .foreground call
    return if w.broke then .broken else .blocked

/-- Lets time go by. -/
def advance (millis : Nat) : Step Unit := do
  let goal := (← get).now + millis * 1000000
  let isOver : Unit → Step (Unit × Option Unit) := fun _ => do
    return ((), if goal ≤ (← get).now then some () else none)
  discard <| awaitUntil goal isOver patience ()

end ChannelRouting.Scenario
