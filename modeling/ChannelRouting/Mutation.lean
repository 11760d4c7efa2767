import ChannelRouting.Entry

/-!
# Mutations

A mutation is one indivisible change to an entry, kept as data so that it can be
sent to wherever the entry lives.

* Adding a route gives a target further keys; without keys it gives the default
  key. A target new to the entry goes behind the others.
* Removing a route takes keys from a target; without keys, or when none are left,
  the target goes. A target that has no route is left alone.
* Setting the strategy leaves the routes alone.
-/

namespace ChannelRouting

/-- One indivisible change to an entry. -/
inductive Mutation where
  | addRoute (target : ChannelKey) (keys : List String)
  | removeRoute (target : ChannelKey) (keys : List String)
  | setStrategy (strategy : Option Strategy)
deriving DecidableEq

namespace Mutation

/-- The entry with a target's keys replaced: a target left without keys goes. -/
def setKeys (e : Entry) (target : ChannelKey) (keys : SortedSet String)
    (whenEmpty : Entry) : Entry :=
  match Route.new? target keys with
  | some route => e.withRoute route
  | none => whenEmpty

/-- The entry after the mutation. -/
def apply (m : Mutation) (e : Entry) : Entry :=
  match m with
  | addRoute target keys =>
    let added := if keys.isEmpty then [defaultRoutingKey] else keys
    setKeys e target ((e.keysOf target).insertAll added) e
  | removeRoute target keys =>
    if (e.route? target).isNone then e
    else
      let left := if keys.isEmpty then .empty else (e.keysOf target).diff keys
      setKeys e target left (e.withoutRoute target)
  | setStrategy strategy => e.withStrategy strategy

/-- The effect on an entry that may be absent: an absent entry stays absent. -/
def applyIfPresent (m : Mutation) (e : Option Entry) : Option Entry := e.map m.apply

/-- The entry after mutations in order. -/
def applyAll (e : Entry) (ms : List Mutation) : Entry := ms.foldl (fun e m => m.apply e) e

@[simp] theorem channel_apply (m : Mutation) (e : Entry) : (m.apply e).channel = e.channel := by
  cases m with
  | addRoute t ks => simp only [apply, setKeys]; split <;> rfl
  | removeRoute t ks =>
    simp only [apply, setKeys]
    split
    · rfl
    · split <;> rfl
  | setStrategy s => rfl

end Mutation

end ChannelRouting
