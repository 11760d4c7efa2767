import ChannelRouting.Json
import ChannelRouting.Message

/-!
# Wire form of messages

The identifier as text, the headers as an object, the payload as an array of
bytes. Any layout of the identifier is read, the grouped lower-case one is
written.
-/

namespace ChannelRouting

namespace Uuid

def toJson (u : Uuid) : Json := .str u.toString

def ofJson (j : Json) : Decoded Uuid := do
  match ofString? (← j.asString) with
  | some u => return u
  | none => throw .invalidUuid

end Uuid

namespace Message

def toJson (m : Message) : Json :=
  .obj [("id", m.id.toJson), ("headers", .ofHeaders m.headers), ("payload", .ofBytes m.payload)]

structure Draft where
  id : Option Uuid := none
  headers : Option (SortedMap String String) := none
  payload : Option (List UInt8) := none

def fields : List (Record.Field Json Draft) :=
  [{ name := "id", absence := .refused, isRead := fun d => d.id.isSome,
     read := fun v d => do return { d with id := some (← Uuid.ofJson v) } },
   { name := "headers", absence := .refused, isRead := fun d => d.headers.isSome,
     read := fun v d => do return { d with headers := some (← v.asHeaders) } },
   { name := "payload", absence := .refused, isRead := fun d => d.payload.isSome,
     read := fun v d => do return { d with payload := some (← v.asBytes) } }]

def ofJson (j : Json) : Decoded Message := do
  let d ← j.asRecord fields .ignored {}
  return { id := d.id.getD default, headers := d.headers.getD default,
           payload := d.payload.getD [] }

end Message

end ChannelRouting
