import ChannelRouting.WaitPolicy

/-!
# Settings of a routing loop

How long a loop waits for the next message of its source and how long for room
on a target. By default it waits for messages for ever and for room not at all.
-/

namespace ChannelRouting

/-- The wait policies of a routing loop. -/
structure LoopConfig where
  receiveWait : WaitPolicy := .indefinite
  sendWait : WaitPolicy := .immediate
deriving DecidableEq, Inhabited

end ChannelRouting
