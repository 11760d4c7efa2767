import ChannelRouting.Message
import ChannelRouting.Transport.Error

/-!
# Transport within one process

Every channel is a queue, first in, first out. A channel that was never used is
open and empty. Closing a channel tells its receivers that nothing will follow:
they get what is still queued and then no message, while senders are refused. A
capacity bounds each queue.

A call either settles at once or has to wait. `Transport.tryReceive` and
`Transport.trySend` are the attempts that calls are made of;
`Transport.receiveAlone` and `Transport.sendAlone` are whole calls while nobody
else uses the transport, and have no outcome exactly if they never return.

A wait with a limit ends at a moment that is fixed when the call begins, before the
channel is looked at. The clock has a last moment, and a call whose wait would end
after it breaks off, whatever the channel could have answered.
-/

namespace ChannelRouting

/-- The queue of a channel. -/
structure Queue where
  messages : List Message := []
  closed : Bool := false
deriving DecidableEq

instance : Inhabited Queue := ⟨{}⟩

/-- The channels of one process. -/
structure Transport where
  capacity : Option Nat := none
  queues : SortedMap ChannelKey Queue := .empty
  /-- Handles that were opened and not yet released. -/
  openHandles : Nat := 0
  /-- The longest wait, in nanoseconds, that ends by the last moment of the clock, which counts
  seconds in 63 bits. Waits that have passed are not taken off. -/
  reach : Nat := 9223372036854775808 * 1000000000 - 1

instance : Inhabited Transport := ⟨{}⟩

/-- A handle onto a channel. -/
structure Handle where
  key : ChannelKey
  released : Bool := false
deriving DecidableEq

namespace Transport

def queue (t : Transport) (key : ChannelKey) : Queue := (t.queues.get? key).getD {}

def withQueue (t : Transport) (key : ChannelKey) (q : Queue) : Transport :=
  { t with queues := t.queues.insert key q }

/-- Whether a queue of some length has room. -/
def hasRoom (t : Transport) (length : Nat) : Bool :=
  match t.capacity with
  | some capacity => length < capacity
  | none => true

/-- An attempt to receive: the next message, no message from a closed channel, or
nothing yet. -/
def tryReceive (t : Transport) (key : ChannelKey) : Option (Option Message) × Transport :=
  match (t.queue key).messages with
  | m :: rest => (some (some m), t.withQueue key { t.queue key with messages := rest })
  | [] => (if (t.queue key).closed then some none else none, t)

/-- An attempt to send: accepted, refused by a closed channel, or no room yet. -/
def trySend (t : Transport) (key : ChannelKey) (m : Message) :
    Option (Except TransportError Unit) × Transport :=
  let q := t.queue key
  if q.closed then (some (.error (.closed key)), t)
  else if t.hasRoom q.messages.length then
    (some (.ok ()), t.withQueue key { q with messages := q.messages ++ [m] })
  else (none, t)

/-- Whether the clock has a moment at which a wait is over. One without a limit needs none. -/
def reaches (t : Transport) (wait : WaitPolicy) : Bool :=
  wait.limit.all fun limit => limit.toNanos ≤ t.reach

/-- Receives while nobody else uses the transport; `none` if that never returns. -/
def receiveAlone (t : Transport) (key : ChannelKey) (wait : WaitPolicy) :
    Option (Option Message) × Transport :=
  if t.reaches wait then
    match t.tryReceive key with
    | (some r, t') => (some r, t')
    | (none, t') => (wait.limit.map fun _ => none, t')
  else (none, t)

/-- Sends while nobody else uses the transport; `none` if that never returns. -/
def sendAlone (t : Transport) (key : ChannelKey) (m : Message) (wait : WaitPolicy) :
    Option (Except TransportError Unit) × Transport :=
  if t.reaches wait then
    match t.trySend key m with
    | (some r, t') => (some r, t')
    | (none, t') => (wait.limit.map fun _ => .error (.ofWait key wait), t')
  else (none, t)

/-- Puts a message on a channel without a handle, or is refused. -/
def enqueue (t : Transport) (key : ChannelKey) (m : Message) :
    Except TransportError Unit × Transport :=
  match t.trySend key m with
  | (some r, t') => (r, t')
  | (none, t') => (.error (.full key), t')

/-- Closes a channel for good. -/
def close (t : Transport) (key : ChannelKey) : Transport :=
  t.withQueue key { t.queue key with closed := true }

def drain (t : Transport) (key : ChannelKey) : List Message × Transport :=
  ((t.queue key).messages, t.withQueue key { t.queue key with messages := [] })

def open_ (t : Transport) (key : ChannelKey) : Handle × Transport :=
  ({ key := key }, { t with openHandles := t.openHandles + 1 })

/-- Releases a handle; a second time this does nothing. -/
def release (t : Transport) (h : Handle) : Handle × Transport :=
  if h.released then (h, t)
  else ({ h with released := true }, { t with openHandles := t.openHandles - 1 })

end Transport

end ChannelRouting
