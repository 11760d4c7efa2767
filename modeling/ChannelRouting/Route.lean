import ChannelRouting.ChannelKey

/-!
# Routes

A route binds a source channel to one target under a set of routing keys.
`Route.new?` builds only routes with at least one key; a route read from its wire
form may lack keys, and then matches no key at all.
-/

namespace ChannelRouting

/-- A binding to one target channel. -/
structure Route where
  target : ChannelKey
  keys : SortedSet String
deriving DecidableEq

namespace Route

/-- A route with at least one key. -/
def new? (target : ChannelKey) (keys : SortedSet String) : Option Route :=
  if keys.isEmpty then none else some { target := target, keys := keys }

/-- Whether a routing key is one of the route's. -/
def hasKey (r : Route) (key : String) : Bool := r.keys.contains key

end Route

end ChannelRouting
