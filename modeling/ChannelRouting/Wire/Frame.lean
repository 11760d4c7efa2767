import ChannelRouting.Frame
import ChannelRouting.Json

/-!
# Wire form of frames

The command by its name, the headers as an object, the body as an array of
bytes.
-/

namespace ChannelRouting

namespace Command

def toJson (c : Command) : Json := .str c.name

def ofName (s : String) : Decoded Command :=
  match ofName? s with
  | some c => .ok c
  | none => .error (.unknownVariant s (all.map name))

def ofJson (j : Json) : Decoded Command := do
  let (s, content) ← j.asVariant (all.map name)
  Json.unitContent content
  ofName s

end Command

namespace Frame

def toJson (f : Frame) : Json :=
  .obj [("command", f.command.toJson), ("headers", .ofHeaders f.headers),
    ("body", .ofBytes f.body)]

structure Draft where
  command : Option Command := none
  headers : Option (SortedMap String String) := none
  body : Option (List UInt8) := none

def fields : List (Record.Field Json Draft) :=
  [{ name := "command", absence := .refused, isRead := fun d => d.command.isSome,
     read := fun v d => do return { d with command := some (← Command.ofJson v) } },
   { name := "headers", absence := .refused, isRead := fun d => d.headers.isSome,
     read := fun v d => do return { d with headers := some (← v.asHeaders) } },
   { name := "body", absence := .refused, isRead := fun d => d.body.isSome,
     read := fun v d => do return { d with body := some (← v.asBytes) } }]

def ofJson (j : Json) : Decoded Frame := do
  let d ← j.asRecord fields .ignored {}
  return { command := d.command.getD default, headers := d.headers.getD default,
           body := d.body.getD [] }

end Frame

end ChannelRouting
