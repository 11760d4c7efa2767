import ChannelRouting.ChannelKey
import ChannelRouting.WaitPolicy

/-!
# Transport failures

Why a channel could not be opened, read or written.
-/

namespace ChannelRouting

/-- Why an operation on a channel failed. -/
inductive TransportError where
  | closed (key : ChannelKey)
  | full (key : ChannelKey)
  | timeout (key : ChannelKey)
  | io (text : String)
deriving DecidableEq

namespace TransportError

def message : TransportError → String
  | closed key => "channel `" ++ key.name ++ "` is closed"
  | full key => "channel `" ++ key.name ++ "` is full"
  | timeout key => "timed out waiting on channel `" ++ key.name ++ "`"
  | io text => "transport failure: " ++ text

def key? : TransportError → Option ChannelKey
  | closed key => some key
  | full key => some key
  | timeout key => some key
  | io _ => none

/-- The refusal of a send whose wait is over: a send that does not block finds the
channel full, any other send has timed out. -/
def ofWait (key : ChannelKey) : WaitPolicy → TransportError
  | .immediate => full key
  | _ => timeout key

end TransportError

end ChannelRouting
