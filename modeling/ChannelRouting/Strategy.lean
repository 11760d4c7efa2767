import ChannelRouting.Message
import ChannelRouting.Route
import ChannelRouting.Strategy.Topic

/-!
# Routing strategies

A strategy picks the targets of a message among the routes of a source.

* `direct`: the message's routing key is one of the route's keys.
* `fanout`: every route.
* `topic`: one of the route's keys, read as a pattern, matches the routing key.

`Strategy.targets` is the set of the targets of the routes that a strategy
selects (`Strategy.mem_targets`); a target of several selected routes counts
once.
-/

namespace ChannelRouting

/-- How the targets of a message are picked. -/
inductive Strategy where
  | direct
  | fanout
  | topic
deriving DecidableEq, Inhabited

namespace Strategy

/-- Whether a route is selected for a routing key. -/
def selects (s : Strategy) (key : String) (r : Route) : Bool :=
  match s with
  | direct => r.hasKey key
  | fanout => true
  | topic => r.keys.toList.any fun pattern => Topic.matches pattern key

/-- The targets of a message among some routes. -/
def targets (s : Strategy) (m : Message) (routes : List Route) : SortedSet ChannelKey :=
  .ofList ((routes.filter (s.selects m.routingKey)).map Route.target)

theorem mem_targets {s : Strategy} {m : Message} {routes : List Route} {t : ChannelKey} :
    t ∈ s.targets m routes
      ↔ ∃ r ∈ routes, s.selects m.routingKey r = true ∧ r.target = t := by
  simp [targets, and_assoc]

/-- The name of a strategy as it is shown in events. -/
def name : Strategy → String
  | direct => "Direct"
  | fanout => "Fanout"
  | topic => "Topic"

end Strategy

end ChannelRouting
