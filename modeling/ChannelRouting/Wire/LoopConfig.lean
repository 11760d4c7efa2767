import ChannelRouting.Loop.Config
import ChannelRouting.Wire.WaitPolicy

/-!
# Wire form of loop settings

Two wait policies, either of which may be missing and then has its default. A
member of any other name is refused. The fields are generic in the data they are
read from, because settings stand in wire forms and in configuration files.
-/

namespace ChannelRouting.LoopConfig

def toJson (c : LoopConfig) : Json :=
  .obj [("receive_wait", c.receiveWait.toJson), ("send_wait", c.sendWait.toJson)]

structure Draft where
  receiveWait : Option WaitPolicy := none
  sendWait : Option WaitPolicy := none

def fields {V : Type} (readWait : V → Decoded WaitPolicy) : List (Record.Field V Draft) :=
  [{ name := "receive_wait", absence := .defaulted, isRead := fun d => d.receiveWait.isSome,
     read := fun v d => do return { d with receiveWait := some (← readWait v) } },
   { name := "send_wait", absence := .defaulted, isRead := fun d => d.sendWait.isSome,
     read := fun v d => do return { d with sendWait := some (← readWait v) } }]

/-- The settings that were read, with defaults for what was not. -/
def ofDraft (d : Draft) : LoopConfig :=
  { receiveWait := d.receiveWait.getD .indefinite, sendWait := d.sendWait.getD .immediate }

def ofJson (j : Json) : Decoded LoopConfig :=
  ofDraft <$> j.asRecord (fields WaitPolicy.ofJson) .refused {}

end ChannelRouting.LoopConfig
