import ChannelRouting.Message
import ChannelRouting.Store.Error
import ChannelRouting.Transport.Error

/-!
# What a routing loop reports

The counters of a loop, kept over all its runs, and the reasons for which a run
ends other than by its source being drained. A failure that hits a message taken
off the source hands that message back (`LoopError.message?`).
-/

namespace ChannelRouting

/-- One target that could not be opened or sent to for one message. -/
structure SendFailure where
  target : ChannelKey
  messageId : Uuid
  error : TransportError
deriving DecidableEq

/-- The counters of a loop. -/
structure LoopStats where
  received : Nat := 0
  /-- Sends that succeeded, one for each target of each message. -/
  forwarded : Nat := 0
  /-- Messages without a target. -/
  dropped : Nat := 0
  /-- Sends that failed, in the order in which they did. -/
  sendErrors : List SendFailure := []
deriving DecidableEq, Inhabited

/-- Why a run stopped before its source was drained. -/
inductive LoopError where
  | open_ (error : TransportError)
  | receive (error : TransportError)
  | store (error : StoreError) (message : Message)
  | entryAbsent (key : ChannelKey) (message : Message)
deriving DecidableEq

namespace LoopError

/-- The text of a failure. -/
def text : LoopError → String
  | open_ e => "unable to open source channel: " ++ e.message
  | receive e => "receive from source failed: " ++ e.message
  | store e _ => "unable to read routing table: " ++ e.message
  | entryAbsent key _ => "no routing table entry for `" ++ key.name ++ "`"

/-- The message that was received and not routed. -/
def message? : LoopError → Option Message
  | open_ _ => none
  | receive _ => none
  | store _ m => some m
  | entryAbsent _ m => some m

end LoopError

end ChannelRouting
