import ChannelRouting.Scenario.Channels
import ChannelRouting.Scenario.Entries
import ChannelRouting.Worker

/-!
# The loops of a scenario

Loops are bound to names, run in the foreground, in the background or on a thread
of their own. While a loop runs it has no name; a run that ends gives it back,
unless it broke off or was cancelled.

A loop on a thread of its own goes on as far as it can when it is spawned, and to
its end when it is joined. Nobody is told of its events, and its waits do not
follow the clock of the scenario: when it is joined, a wait that can end does.
-/

namespace ChannelRouting.Scenario

/-- The thread of the script. -/
def scriptThread : String := "main"

/-- Binds a new loop. -/
def bindLoop (name : String) (source : ChannelKey) (config : LoopConfig) : Step Loop := do
  let id ← freshId
  let l : Loop := { id := id, source := source, config := config }
  modify fun w => { w with loops := w.loops.insert name l }
  return l

/-- Binds a loop for the channel of an open router. -/
def bindRouterLoop (name : String) (router : String) (config : LoopConfig) :
    Step (Except Refusal (Except RouterError Loop)) :=
  withRouter router fun r => r.loop storeAccess fun source => bindLoop name source config

/-- A loop by its name. -/
def loop? (w : World) (name : String) : Option Loop := w.loops.get? name

/-- Takes a loop from its name. -/
def takeLoop (name : String) : Step (Option Loop) := modifyGet fun w =>
  (loop? w name, { w with loops := w.loops.erase name })

/-- Gives a loop back to its name when its run has ended. -/
def giveBack (name : String) : Outcome → Step Unit
  | .replied (.ran l _) _ => modify fun w => { w with loops := w.loops.insert name l }
  | _ => return ()

/-- Runs a loop, in the background if a task is named. -/
def runLoop (name : String) (task : Option String) : Step (Except Refusal (Option Outcome)) := do
  match ← takeLoop name with
  | none => return .error .noLoop
  | some l =>
    let call : Call := .run (l.start scriptThread)
    match task with
    | some t =>
      begin t call name
      return .ok none
    | none =>
      let outcome ← inForeground call
      giveBack name outcome
      return .ok (some outcome)

/-- What a look at a task shows: it goes on, or has ended. -/
inductive Look where
  | pending
  | ended (outcome : Outcome)

/-- Forgets a task. -/
def forget (name : String) (n : Nat) : Step Unit := modify fun w =>
  { w with taskNames := w.taskNames.erase name, tasks := w.tasks.erase n }

/-- Looks at a task; one that has ended is forgotten. -/
def pollTask (name : String) : Step (Except Refusal Look) := do
  let w ← get
  match w.taskNames.get? name with
  | none => return .error .noTask
  | some n =>
    match w.tasks.get? n with
    | none => return .error .noTask
    | some t =>
      match t.outcome with
      | none => return .ok .pending
      | some outcome =>
        forget name n
        giveBack t.loopName outcome
        return .ok (.ended outcome)

/-- Cancels a task and waits until it is gone. -/
def abortTask (name : String) : Step (Except Refusal Unit) := do
  let w ← get
  match w.taskNames.get? name with
  | none => return .error .noTask
  | some n =>
    match w.tasks.get? n with
    | none => return .error .noTask
    | some t =>
      if t.outcome.isNone then
        setTask n { t with cancelled := true }
        wake (.task n)
        runReady patience
      forget name n
      return .ok ()

/-! ## Threads -/

/-- Lets nobody be told of the events of a step. -/
def quietly {α : Type} (step : Step α) : Step α := do
  let muted := (← get).trace.muted
  modify fun w => { w with trace := { w.trace with muted := true } }
  let a ← step
  modify fun w => { w with trace := { w.trace with muted := muted } }
  return a

/-- Puts the loop of a thread into another state. -/
def setWorker (n : Nat) (s : Spawned) : Step Unit := modify fun w =>
  { w with workers := w.workers.insert n s }

/-- Lets the loop of a thread go on as far as it can. -/
def workerTurn (n : Nat) : Step Unit := do
  match (← get).workers.get? n with
  | none => return ()
  | some s =>
    if s.broken then return ()
    let run ← s.run.advance (loopAccess (.worker n)) patience
    let w ← get
    if w.broke then
      set { w with broke := false }
      giveUp (.worker n) (.run run)
      setWorker n { run := run, broken := true }
    else setWorker n { s with run := run }

/-- Runs a loop on a thread of its own; answers with the thread's name. -/
def spawnLoop (loopName : String) (thread : String) (name : String) :
    Step (Except Refusal String) := do
  match ← takeLoop loopName with
  | none => return .error .noLoop
  | some l =>
    for e in spawnEvents thread l.id l.source do emit e
    let n ← freshId
    modify fun w => { w with workerNames := w.workerNames.insert name n }
    setWorker n { run := l.start (threadNameFor thread) }
    quietly (workerTurn n)
    return .ok (threadNameFor thread)

/-- Whether the loop of a thread has ended. -/
def Spawned.isOver (s : Spawned) : Bool := s.broken || s.run.outcome?.isSome

/-- Whether a waiting call is that of a loop on a thread. -/
def Waiter.isWorkers (x : Waiter) : Bool :=
  match x.actor with
  | .worker _ => true
  | _ => false

/-- Whether a waiting call is that of a loop on a thread and will not wait for ever. -/
def Waiter.canEnd (x : Waiter) : Bool := x.isWorkers && x.deadline.isSome

/-- Ends waits of loops on threads when no news came: that of the loop waited for
if it can end, else all that can. Answers whether there was one. -/
def endWaits (n : Nat) : Step Bool := modifyGet fun w =>
  let isOwn (x : Waiter) : Bool := x.actor = .worker n
  let ownCan := w.waiters.any fun x => x.canEnd && isOwn x
  let ended (x : Waiter) : Waiter :=
    if x.canEnd && (isOwn x || !ownCan) then { x with deadline := some 0 } else x
  (w.waiters.any Waiter.canEnd, { w with waiters := w.waiters.map ended })

/-- Lets the loops of all threads go on until that of one of them has ended; none if
it waits for ever. -/
def finishWorker (n : Nat) : (turns : Nat) → Step (Option Spawned)
  | 0 => return none
  | turns + 1 => do
    for m in (← get).workers.keys do workerTurn m
    let w ← get
    match w.workers.get? n with
    | none => return none
    | some s =>
      if s.isOver then return some s
      if w.waiters.any (fun x => x.isWorkers && x.notice ≠ .none) then finishWorker n turns
      else if ← endWaits n then finishWorker n turns
      else return none

/-- How the loop of a thread ended. -/
inductive Joined where
  | stopped (result : Except LoopError LoopStats)
  | broken (thread : String)
  /-- Its wait cannot end. -/
  | hung

/-- Waits for the loop of a thread; its name is forgotten. -/
def joinWorker (name : String) : Step (Except Refusal Joined) := do
  let w ← get
  match w.workerNames.get? name with
  | none => return .error .noWorker
  | some n =>
    let ended ← quietly (finishWorker n patience)
    modify fun w =>
      { w with workerNames := w.workerNames.erase name, workers := w.workers.erase n }
    match ended with
    | none => return .ok .hung
    | some s =>
      match s.run.outcome? with
      | some result => return .ok (.stopped result)
      | none => return .ok (.broken s.run.thread)

end ChannelRouting.Scenario
