import ChannelRouting.ChannelKey

/-!
# Store failures

Why the store of routing-table entries did not carry out an operation. An entry
that is absent is no failure.
-/

namespace ChannelRouting

/-- Why a store did not carry out an operation. -/
inductive StoreError where
  | unavailable (text : String)
  | contention (key : ChannelKey) (attempts : Nat)
deriving DecidableEq

namespace StoreError

def message : StoreError → String
  | unavailable text => "route store unavailable: " ++ text
  | contention key attempts =>
    "gave up on `" ++ key.name ++ "` after " ++ toString attempts
      ++ " conflicting update attempts"

end StoreError

end ChannelRouting
