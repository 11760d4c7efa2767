import ChannelRouting.Scenario.Schedule

/-!
# The transport of a scenario

The steps on channels and on handles that are bound to names. A handle is released
once neither a name nor a running task has it.
-/

namespace ChannelRouting.Scenario

/-- Changes the transport. -/
def useTransport {α : Type} (use : Transport → α × Transport) : Step α := modifyGet fun w =>
  let (a, t) := use w.recording.transport
  (a, { w with recording := { w.recording with transport := t } })

/-- Puts a message on a channel without a handle. -/
def enqueue (key : ChannelKey) (m : Message) : Step (Except TransportError Unit) := do
  let result ← useTransport fun t => t.enqueue key m
  if let .ok () := result then notifyOne key .reading
  return result

/-- Closes a channel. -/
def closeChannel (key : ChannelKey) : Step Unit := do
  useTransport fun t => ((), t.close key)
  notifyAll key .reading
  notifyAll key .writing

def drain (key : ChannelKey) : Step (List Message) := do
  let taken ← useTransport fun t => t.drain key
  notifyAll key .writing
  return taken

def queue (key : ChannelKey) : Step Queue := do
  return (← get).recording.transport.queue key

/-- The handles that are open, and those ever opened if the transport records. -/
def openHandles : Step (Nat × Option Nat) := do
  let w ← get
  return (w.recording.transport.openHandles,
    if w.records then some w.recording.journal.opened else none)

/-- Marks a channel as failing. -/
def failSendsTo (key : ChannelKey) : Step (Except Refusal Unit) := do
  let w ← get
  if !w.records then return .error .notRecording
  set { w with recording := w.recording.failSendsTo key }
  return .ok ()

/-- The messages that handles sent to a channel with success. -/
def sentTo (key : ChannelKey) : Step (Except Refusal (List Message)) := do
  let w ← get
  return if w.records then .ok (w.recording.sentTo key) else .error .notRecording

/-- Queues a fault of a channel. -/
def addChannelFault (f : ChannelFault) : Step Unit := modify fun w =>
  { w with channelFaults := w.channelFaults ++ [f] }

/-! ## Handles -/

/-- Opens a handle and binds it; `none` if the call broke off. -/
def openHandle (name : String) (key : ChannelKey) : Step (Option (Except TransportError Unit)) := do
  match ← openChannel key with
  | none =>
    modify fun w => { w with broke := false }
    return none
  | some (.error e) => return some (.error e)
  | some (.ok h) =>
    let n ← freshId
    modify fun w => { w with handles := w.handles.insert n h,
                             handleNames := w.handleNames.insert name n }
    releaseUnused
    return some (.ok ())

/-- The handle of a name, with its number. -/
def handle? (w : World) (name : String) : Option (Nat × Handle) :=
  (w.handleNames.get? name).bind fun n => (w.handles.get? n).map fun h => (n, h)

/-- Releases the handle of a name, which goes on working. -/
def releaseNamed (name : String) : Step (Except Refusal Unit) := do
  match handle? (← get) name with
  | none => return .error .noHandle
  | some (n, h) =>
    let h ← releaseHandle h
    modify fun w => { w with handles := w.handles.insert n h }
    return .ok ()

/-- Drops the handle of a name; answers whether there was one. -/
def dropHandle (name : String) : Step Bool := do
  let w ← get
  set { w with handleNames := w.handleNames.erase name }
  releaseUnused
  return w.handleNames.contains name

/-! ## Calls in the foreground and in the background -/

/-- Begins a call in the background under a name. -/
def begin (name : String) (call : Call) (loopName : String) : Step Unit := do
  let n ← freshId
  modify fun w =>
    { w with taskNames := w.taskNames.insert name n,
             tasks := w.tasks.insert n { call := call, started := w.now, loopName := loopName },
             ready := w.ready ++ [n] }

/-- Receives through the handle of a name, in the background if a task is named. -/
def receiveNamed (name : String) (wait : WaitPolicy) (task : Option String) :
    Step (Except Refusal (Option Outcome)) := do
  match handle? (← get) name with
  | none => return .error .noHandle
  | some (n, h) =>
    let call : Call := .receive n h.key wait
    match task with
    | some t =>
      begin t call ""
      return .ok none
    | none => return .ok (some (← inForeground call))

/-- Sends through the handle of a name, in the background if a task is named. -/
def sendNamed (name : String) (m : Message) (wait : WaitPolicy) (task : Option String) :
    Step (Except Refusal (Option Outcome)) := do
  match handle? (← get) name with
  | none => return .error .noHandle
  | some (n, h) =>
    let call : Call := .send n h.key m wait
    match task with
    | some t =>
      begin t call ""
      return .ok none
    | none => return .ok (some (← inForeground call))

end ChannelRouting.Scenario
