import ChannelRouting.Mutation
import Mathlib.Data.Finset.Dedup
import Mathlib.Data.Finset.SDiff

/-!
# Entries as maps from targets to sets of keys

What a mutation does to an entry is said here in terms of what the entry is good for: the
set of keys that a target has, if it has a route (`Entry.keySet?`), and the targets in the
order of their routes (`Entry.destinations`).

* `apply_addRoute`, `apply_removeRoute` and `apply_removeRoute_absent` are the mutations
  with their look-ups done, and `applied` is what a mutation can be to an entry.
* `strategy_apply` says that only setting the strategy changes it.
* `keySet?_apply` says that a mutation changes the keys of a target as `Mutation.rekey`
  does, which knows nothing of routes or their order.
* `destinations_apply` says that it leaves the targets as they are, puts a new one behind
  them, or takes one out.
* `wellFormed_apply` says that well-formed entries stay so.
-/

namespace ChannelRouting

namespace SortedSet

variable {α : Type} [LT α]

/-- A set into which something was put is not empty. -/
theorem isEmpty_insertAll [DecidableLT α] [KeyOrder α] {s : SortedSet α} {l : List α} (h : l ≠ []) :
    (s.insertAll l).isEmpty = false := by
  obtain ⟨a, ha⟩ := List.exists_mem_of_ne_nil l h
  have member : a ∈ s.insertAll l := mem_insertAll.mpr (.inr ha)
  exact List.isEmpty_eq_false_iff.mpr (List.ne_nil_of_mem member)

variable [DecidableEq α]

/-- The members of a set. -/
def toFinset (s : SortedSet α) : Finset α := s.toList.toFinset

@[simp] theorem mem_toFinset {s : SortedSet α} {a : α} : a ∈ s.toFinset ↔ a ∈ s :=
  List.mem_toFinset

theorem toFinset_diff (s : SortedSet α) (l : List α) :
    (s.diff l).toFinset = s.toFinset \ l.toFinset := by
  ext a
  rw [mem_toFinset, mem_diff, Finset.mem_sdiff, mem_toFinset, List.mem_toFinset]

theorem toFinset_insertAll [DecidableLT α] [KeyOrder α] (s : SortedSet α) (l : List α) :
    (s.insertAll l).toFinset = s.toFinset ∪ l.toFinset := by
  ext a
  rw [mem_toFinset, mem_insertAll, Finset.mem_union, mem_toFinset, List.mem_toFinset]

theorem toFinset_eq_empty {s : SortedSet α} : s.toFinset = ∅ ↔ s.isEmpty = true := by
  rw [toFinset, List.toFinset_eq_empty_iff, isEmpty, List.isEmpty_iff]

end SortedSet

/-! ## Routes of an entry -/

namespace Entry

/-- The targets that have a route, in the order of the routes. -/
def destinations (e : Entry) : List ChannelKey := e.routes.map Route.target

/-- The keys of a target, if it has a route. -/
def keySet? (e : Entry) (target : ChannelKey) : Option (Finset String) :=
  (e.route? target).map fun r => r.keys.toFinset

theorem mem_placeRoute {route r : Route} {l : List Route} (h : r ∈ placeRoute route l) :
    r = route ∨ r ∈ l := by
  induction l with
  | nil => exact .inl (List.mem_singleton.mp h)
  | cons first rest ih =>
    unfold placeRoute at h
    by_cases same : first.target = route.target
    · rw [if_pos same] at h
      rcases List.mem_cons.mp h with h | h
      · exact .inl h
      · exact .inr (List.mem_cons_of_mem first h)
    · rw [if_neg same] at h
      rcases List.mem_cons.mp h with rfl | h
      · exact .inr List.mem_cons_self
      · rcases ih h with h | h
        · exact .inl h
        · exact .inr (List.mem_cons_of_mem first h)

theorem find?_placeRoute_self (route : Route) (l : List Route) :
    (placeRoute route l).find? (fun r => r.target = route.target) = some route := by
  induction l with
  | nil => exact List.find?_cons_of_pos (decide_eq_true rfl)
  | cons first rest ih =>
    unfold placeRoute
    by_cases same : first.target = route.target
    · rw [if_pos same]
      exact List.find?_cons_of_pos (decide_eq_true rfl)
    · rw [if_neg same, List.find?_cons_of_neg (by simpa using same)]
      exact ih

theorem find?_placeRoute_of_ne {route : Route} {target : ChannelKey} (h : target ≠ route.target)
    (l : List Route) :
    (placeRoute route l).find? (fun r => r.target = target) =
      l.find? (fun r => r.target = target) := by
  have other : decide (route.target = target) = false := decide_eq_false (Ne.symm h)
  induction l with
  | nil => exact List.find?_cons_of_neg (by simpa using Ne.symm h)
  | cons first rest ih =>
    unfold placeRoute
    by_cases same : first.target = route.target
    · rw [if_pos same, List.find?_cons, List.find?_cons, same, other]
    · rw [if_neg same, List.find?_cons, List.find?_cons, ih]

/-- The targets with a route placed: it goes behind the others if its target is new. -/
theorem map_target_placeRoute (route : Route) (l : List Route) :
    (placeRoute route l).map Route.target =
      if route.target ∈ l.map Route.target then l.map Route.target
      else l.map Route.target ++ [route.target] := by
  induction l with
  | nil => rfl
  | cons first rest ih =>
    unfold placeRoute
    by_cases same : first.target = route.target
    · have member : route.target ∈ (first :: rest).map Route.target := by
        rw [List.map_cons, same]
        exact List.mem_cons_self
      rw [if_pos same, if_pos member, List.map_cons, List.map_cons, same]
    · rw [if_neg same, List.map_cons, ih, List.map_cons]
      by_cases later : route.target ∈ rest.map Route.target
      · rw [if_pos later, if_pos (List.mem_cons_of_mem _ later)]
      · have absent : route.target ∉ first.target :: rest.map Route.target := by
          rw [List.mem_cons, not_or]
          exact ⟨Ne.symm same, later⟩
        rw [if_neg later, if_neg absent, List.cons_append]

theorem mem_destinations {e : Entry} {target : ChannelKey} :
    target ∈ e.destinations ↔ (e.keySet? target).isSome = true := by
  rw [keySet?, Option.isSome_map, route?, List.find?_isSome, destinations, List.mem_map]
  simp only [decide_eq_true_eq]

theorem keySet?_withRoute_self (e : Entry) (route : Route) :
    (e.withRoute route).keySet? route.target = some route.keys.toFinset :=
  congrArg (Option.map fun r : Route => r.keys.toFinset) (find?_placeRoute_self route e.routes)

theorem keySet?_withRoute_of_ne {e : Entry} {route : Route} {target : ChannelKey}
    (h : target ≠ route.target) : (e.withRoute route).keySet? target = e.keySet? target :=
  congrArg (Option.map fun r : Route => r.keys.toFinset) (find?_placeRoute_of_ne h e.routes)

theorem keySet?_withoutRoute_self (e : Entry) (target : ChannelKey) :
    (e.withoutRoute target).keySet? target = none := by
  have gone : (e.withoutRoute target).route? target = none := by
    refine List.find?_eq_none.mpr fun r hr => ?_
    have other := (List.mem_filter.mp hr).2
    simpa using other
  rw [keySet?, gone, Option.map_none]

theorem keySet?_withoutRoute_of_ne {e : Entry} {gone target : ChannelKey} (h : target ≠ gone) :
    (e.withoutRoute gone).keySet? target = e.keySet? target := by
  have same : (e.withoutRoute gone).route? target = e.route? target := by
    unfold route? withoutRoute
    rw [List.find?_filter]
    congr 1
    funext r
    by_cases hr : r.target = target
    · simp only [hr, ne_eq, h, not_false_eq_true, decide_true, and_self]
    · simp only [hr, decide_false, Bool.false_eq_true, and_false]
  rw [keySet?, keySet?, same]

/-- The keys that are there for a mutation to start from. -/
theorem toFinset_keysOf (e : Entry) (target : ChannelKey) :
    (e.keysOf target).toFinset = (e.keySet? target).getD ∅ := by
  unfold keysOf keySet?
  cases e.route? target with
  | none => rfl
  | some r => rfl

end Entry

/-! ## Mutations -/

namespace Mutation

/-- The keys that adding a route adds. -/
def added (keys : List String) : List String :=
  if keys.isEmpty then [defaultRoutingKey] else keys

/-- The keys that removing a route leaves. -/
def left (held : SortedSet String) (keys : List String) : SortedSet String :=
  if keys.isEmpty then .empty else held.diff keys

theorem added_ne_nil (keys : List String) : added keys ≠ [] := by
  cases keys <;> exact List.cons_ne_nil _ _

theorem setKeys_empty {e whenEmpty : Entry} {target : ChannelKey} {keys : SortedSet String}
    (h : keys.isEmpty = true) : setKeys e target keys whenEmpty = whenEmpty := by
  simp only [setKeys, Route.new?, h, if_true]

theorem setKeys_keyed {e whenEmpty : Entry} {target : ChannelKey} {keys : SortedSet String}
    (h : keys.isEmpty = false) :
    setKeys e target keys whenEmpty = e.withRoute { target := target, keys := keys } := by
  simp only [setKeys, Route.new?, h, Bool.false_eq_true, if_false]

/-- Adding always leaves a key, so it places a route. -/
theorem apply_addRoute (target : ChannelKey) (keys : List String) (e : Entry) :
    (addRoute target keys).apply e =
      e.withRoute { target := target, keys := (e.keysOf target).insertAll (added keys) } :=
  setKeys_keyed (SortedSet.isEmpty_insertAll (added_ne_nil keys))

theorem apply_removeRoute_absent {target : ChannelKey} (keys : List String) {e : Entry}
    (h : e.route? target = none) : (removeRoute target keys).apply e = e := by
  simp only [apply, h, Option.isNone_none, if_true]

/-- Removing takes the route away if it leaves no key. -/
theorem apply_removeRoute {target : ChannelKey} (keys : List String) {e : Entry} {r : Route}
    (h : e.route? target = some r) :
    (removeRoute target keys).apply e =
      if (left r.keys keys).isEmpty then e.withoutRoute target
      else e.withRoute { target := target, keys := left r.keys keys } := by
  have start : e.keysOf target = r.keys := by
    rw [Entry.keysOf, h]
    rfl
  have replaced : (removeRoute target keys).apply e =
      setKeys e target (left r.keys keys) (e.withoutRoute target) := by
    simp only [apply, h, Option.isNone_some, Bool.false_eq_true, if_false, start]
    rfl
  rw [replaced]
  by_cases nothing : (left r.keys keys).isEmpty = true
  · rw [if_pos nothing, setKeys_empty nothing]
  · rw [if_neg nothing, setKeys_keyed (Bool.eq_false_iff.mpr nothing)]

/-- The strategy that a mutation sets, if it sets one; it may set none. -/
def strategy? : Mutation → Option (Option Strategy)
  | addRoute .. | removeRoute .. => none
  | setStrategy strategy => some strategy

/-- **What a mutation can be to an entry.** -/
inductive Applied (e : Entry) : Mutation → Entry → Prop
  | placed {m : Mutation} (r : Route) : m.strategy? = none → r.keys.isEmpty = false →
    Applied e m (e.withRoute r)
  | removed {m : Mutation} (target : ChannelKey) : m.strategy? = none →
    Applied e m (e.withoutRoute target)
  | idle {m : Mutation} : m.strategy? = none → Applied e m e
  | set (strategy : Option Strategy) : Applied e (setStrategy strategy) (e.withStrategy strategy)

theorem applied (m : Mutation) (e : Entry) : Applied e m (m.apply e) := by
  cases m with
  | addRoute target keys =>
    have keyed := SortedSet.isEmpty_insertAll (s := e.keysOf target) (added_ne_nil keys)
    rw [apply_addRoute]
    exact .placed _ rfl keyed
  | removeRoute target keys =>
    cases h : e.route? target with
    | none =>
      rw [apply_removeRoute_absent keys h]
      exact .idle rfl
    | some r =>
      rw [apply_removeRoute keys h]
      by_cases nothing : (left r.keys keys).isEmpty = true
      · rw [if_pos nothing]
        exact .removed target rfl
      · rw [if_neg nothing]
        exact .placed _ rfl (Bool.eq_false_iff.mpr nothing)
  | setStrategy strategy => exact .set strategy

theorem strategy_apply (m : Mutation) (e : Entry) :
    (m.apply e).strategy = m.strategy?.getD e.strategy := by
  have step := applied m e
  generalize m.apply e = e' at step
  cases step with
  | placed r same keyed =>
    rw [same]
    rfl
  | removed target same =>
    rw [same]
    rfl
  | idle same =>
    rw [same]
    rfl
  | set strategy => rfl

/-! ## The keys of a target -/

/-- **What a mutation makes of the keys of a target.** A target without a route has none. -/
def rekey (target : ChannelKey) : Mutation → Option (Finset String) → Option (Finset String)
  | addRoute t keys, held =>
    if t = target then
      some (held.getD ∅ ∪ if keys = [] then {defaultRoutingKey} else keys.toFinset)
    else held
  | removeRoute t keys, held =>
    if t = target then
      held.bind fun ks =>
        if keys = [] ∨ ks \ keys.toFinset = ∅ then none else some (ks \ keys.toFinset)
    else held
  | setStrategy _, held => held

theorem toFinset_added (keys : List String) :
    (added keys).toFinset = if keys = [] then {defaultRoutingKey} else keys.toFinset := by
  cases keys with
  | nil => rfl
  | cons key rest => rfl

/-- Whether removing keys leaves none, and what it leaves. -/
theorem left_spec (held : SortedSet String) (keys : List String) :
    ((left held keys).isEmpty = true ↔ keys = [] ∨ held.toFinset \ keys.toFinset = ∅) ∧
      (keys ≠ [] → (left held keys).toFinset = held.toFinset \ keys.toFinset) := by
  cases keys with
  | nil => exact ⟨⟨fun _ => .inl rfl, fun _ => rfl⟩, fun h => absurd rfl h⟩
  | cons key rest =>
    have same : (left held (key :: rest)).toFinset = held.toFinset \ (key :: rest).toFinset :=
      SortedSet.toFinset_diff held (key :: rest)
    refine ⟨?_, fun _ => same⟩
    rw [← SortedSet.toFinset_eq_empty, same]
    exact (or_iff_right (List.cons_ne_nil key rest)).symm

/-- **A mutation rekeys every target.** -/
theorem keySet?_apply (m : Mutation) (e : Entry) (target : ChannelKey) :
    (m.apply e).keySet? target = m.rekey target (e.keySet? target) := by
  cases m with
  | addRoute t keys =>
    rw [apply_addRoute, rekey]
    by_cases ht : t = target
    · subst ht
      rw [if_pos rfl, ← toFinset_added, ← Entry.toFinset_keysOf, ← SortedSet.toFinset_insertAll]
      exact Entry.keySet?_withRoute_self e _
    · rw [if_neg ht]
      exact Entry.keySet?_withRoute_of_ne (Ne.symm ht)
  | removeRoute t keys =>
    rw [rekey]
    cases h : e.route? t with
    | none =>
      rw [apply_removeRoute_absent keys h]
      by_cases ht : t = target
      · subst ht
        have absent : e.keySet? t = none := by rw [Entry.keySet?, h, Option.map_none]
        rw [if_pos rfl, absent, Option.bind_none]
      · rw [if_neg ht]
    | some r =>
      rw [apply_removeRoute keys h]
      obtain ⟨nothing, rest⟩ := left_spec r.keys keys
      by_cases ht : t = target
      · subst ht
        have held : e.keySet? t = some r.keys.toFinset := by rw [Entry.keySet?, h, Option.map_some]
        rw [if_pos rfl, held, Option.bind_some]
        by_cases gone : (left r.keys keys).isEmpty = true
        · rw [if_pos gone, if_pos (nothing.mp gone)]
          exact Entry.keySet?_withoutRoute_self e t
        · have remain : ¬ (keys = [] ∨ r.keys.toFinset \ keys.toFinset = ∅) := mt nothing.mpr gone
          rw [if_neg gone, if_neg remain, ← rest (not_or.mp remain).1]
          exact Entry.keySet?_withRoute_self e _
      · rw [if_neg ht]
        by_cases gone : (left r.keys keys).isEmpty = true
        · rw [if_pos gone, Entry.keySet?_withoutRoute_of_ne (Ne.symm ht)]
        · rw [if_neg gone]
          exact Entry.keySet?_withRoute_of_ne (Ne.symm ht)
  | setStrategy strategy => rfl

/-! ## The order of the targets, and well-formed entries -/

/-- **What a mutation makes of the list of targets.** -/
theorem destinations_apply (m : Mutation) (e : Entry) :
    (m.apply e).destinations = e.destinations ∨
      (∃ target, target ∉ e.destinations ∧
        (m.apply e).destinations = e.destinations ++ [target]) ∨
      ∃ target, (m.apply e).destinations = e.destinations.filter (· ≠ target) := by
  have step := applied m e
  generalize m.apply e = e' at step ⊢
  cases step with
  | placed r _ _ =>
    have placed : (e.withRoute r).destinations =
        if r.target ∈ e.destinations then e.destinations else e.destinations ++ [r.target] :=
      Entry.map_target_placeRoute r e.routes
    by_cases known : r.target ∈ e.destinations
    · rw [if_pos known] at placed
      exact .inl placed
    · rw [if_neg known] at placed
      exact .inr (.inl ⟨r.target, known, placed⟩)
  | removed target _ =>
    refine .inr (.inr ⟨target, ?_⟩)
    rw [Entry.destinations, Entry.destinations, List.filter_map]
    rfl
  | idle _ => exact .inl rfl
  | set strategy => exact .inl rfl

/-- **A mutation keeps an entry well formed.** -/
theorem wellFormed_apply {e : Entry} (h : e.WellFormed) (m : Mutation) : (m.apply e).WellFormed where
  nodup := by
    show (m.apply e).destinations.Nodup
    have before : e.destinations.Nodup := h.nodup
    rcases destinations_apply m e with same | ⟨target, new, more⟩ | ⟨target, less⟩
    · rw [same]
      exact before
    · rw [more, ← List.concat_eq_append]
      exact before.concat new
    · rw [less]
      exact before.filter _
  keyed := by
    have step := applied m e
    generalize m.apply e = e' at step ⊢
    intro r hr
    cases step with
    | placed route _ keyed =>
      rcases Entry.mem_placeRoute hr with rfl | hr
      · exact keyed
      · exact h.keyed r hr
    | removed target _ => exact h.keyed r (List.mem_filter.mp hr).1
    | idle _ => exact h.keyed r hr
    | set strategy => exact h.keyed r hr

end Mutation

end ChannelRouting
