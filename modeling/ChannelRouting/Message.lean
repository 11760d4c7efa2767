import ChannelRouting.Sorted.Map
import ChannelRouting.Text.Utf8
import ChannelRouting.Uuid

/-!
# Messages

A message has an identifier, named headers and a payload of bytes. Routing reads
one header, `routing-key`, and changes nothing: every target receives the value
that was taken off the source.
-/

namespace ChannelRouting

/-- The header that routing reads. -/
def routingKeyHeader : String := "routing-key"

/-- The routing key of a message that names none, and of a route added without
keys. -/
def defaultRoutingKey : String := "__default__"

/-- What travels over channels. -/
structure Message where
  id : Uuid
  headers : SortedMap String String
  payload : List UInt8
deriving DecidableEq, Inhabited

namespace Message

/-- A message without headers. -/
def new (id : Uuid) (payload : List UInt8) : Message :=
  { id := id, headers := .empty, payload := payload }

def withHeader (m : Message) (name value : String) : Message :=
  { m with headers := m.headers.insert name value }

/-- The message with its routing key set. -/
def withRoutingKey (m : Message) (key : String) : Message :=
  m.withHeader routingKeyHeader key

def header? (m : Message) (name : String) : Option String := m.headers.get? name

/-- The routing key the message names. -/
def routingKey? (m : Message) : Option String := m.header? routingKeyHeader

/-- The routing key the message is routed by. -/
def routingKey (m : Message) : String := m.routingKey?.getD defaultRoutingKey

/-- The routing key as it is shown in events: `none` stands for a missing one. -/
def shownRoutingKey (m : Message) : String := m.routingKey?.getD "none"

/-- The payload as text, leniently read. -/
def payloadText (m : Message) : String := Utf8.decodeLossy m.payload

@[simp] theorem header?_withHeader {m : Message} {name value : String} :
    (m.withHeader name value).header? name = some value := by
  simp [withHeader, header?]

theorem header?_withHeader_of_ne {m : Message} {name value other : String} (h : other ≠ name) :
    (m.withHeader name value).header? other = m.header? other := by
  simp [withHeader, header?, SortedMap.get?_insert_of_ne h]

@[simp] theorem routingKey_withRoutingKey {m : Message} {key : String} :
    (m.withRoutingKey key).routingKey = key := by
  simp [withRoutingKey, routingKey, routingKey?]

end Message

/-- A message with a text payload and a routing key. -/
def keyedMessage (id : Uuid) (body key : String) : Message :=
  (Message.new id (Utf8.encode body)).withRoutingKey key

/-- Messages whose payloads are a text with a running number from 0 behind it,
with the identifiers that `id` gives to the numbers. -/
def numberedMessages (id : Nat → Uuid) (text : String) (count : Nat) : List Message :=
  (List.range count).map fun i => Message.new (id i) (Utf8.encode (text ++ "-" ++ toString i))

end ChannelRouting
