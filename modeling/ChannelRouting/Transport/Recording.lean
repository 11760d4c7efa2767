import ChannelRouting.Transport

/-!
# Recording transport

A transport that keeps a journal: the messages that handles sent with success, by
channel, and the number of handles opened. Channels can be marked as failing, and
then refuse every send through a handle, old or new, before the queue is asked.

Messages put on a channel without a handle leave no trace in the journal.
-/

namespace ChannelRouting

/-- What a recording transport remembers. -/
structure Journal where
  failing : SortedSet ChannelKey := .empty
  sent : SortedMap ChannelKey (List Message) := .empty
  opened : Nat := 0

/-- A transport with its journal. -/
structure Recording where
  transport : Transport := {}
  journal : Journal := {}

instance : Inhabited Recording := ⟨{}⟩

namespace Recording

/-- Marks a channel as failing. -/
def failSendsTo (r : Recording) (key : ChannelKey) : Recording :=
  { r with journal := { r.journal with failing := r.journal.failing.insert key } }

/-- The messages that handles sent to a channel with success. -/
def sentTo (r : Recording) (key : ChannelKey) : List Message :=
  (r.journal.sent.get? key).getD []

/-- The failure of a send to a channel that is marked as failing. -/
def injected? (r : Recording) (key : ChannelKey) : Option TransportError :=
  if key ∈ r.journal.failing then some (.io ("injected failure on `" ++ key.name ++ "`"))
  else none

/-- Enters a successful send into the journal. -/
def record (r : Recording) (key : ChannelKey) (m : Message) : Recording :=
  { r with journal :=
      { r.journal with sent := r.journal.sent.insert key (r.sentTo key ++ [m]) } }

def open_ (r : Recording) (key : ChannelKey) : Handle × Recording :=
  let (h, t) := r.transport.open_ key
  (h, { transport := t, journal := { r.journal with opened := r.journal.opened + 1 } })

def release (r : Recording) (h : Handle) : Handle × Recording :=
  let (h, t) := r.transport.release h
  (h, { r with transport := t })

/-- The recording after an attempt to send that had an outcome. -/
def afterSend (r : Recording) (key : ChannelKey) (m : Message) :
    Option (Except TransportError Unit) → Recording
  | some (.ok ()) => r.record key m
  | _ => r

/-- An attempt to send through a handle to a channel not marked as failing. -/
def trySend (r : Recording) (key : ChannelKey) (m : Message) :
    Option (Except TransportError Unit) × Recording :=
  let (result, t) := r.transport.trySend key m
  (result, { r with transport := t }.afterSend key m result)

/-- Sends through a handle while nobody else uses the transport; `none` if that
never returns. -/
def sendAlone (r : Recording) (h : Handle) (m : Message) (wait : WaitPolicy) :
    Option (Except TransportError Unit) × Recording :=
  match r.injected? h.key with
  | some e => (some (.error e), r)
  | none =>
    let (result, t) := r.transport.sendAlone h.key m wait
    (result, { r with transport := t }.afterSend h.key m result)

/-- Receives through a handle while nobody else uses the transport; `none` if that
never returns. -/
def receiveAlone (r : Recording) (h : Handle) (wait : WaitPolicy) :
    Option (Option Message) × Recording :=
  let (result, t) := r.transport.receiveAlone h.key wait
  (result, { r with transport := t })

end Recording

end ChannelRouting
