import ChannelRouting.Proofs.Entry.Routes

/-!
# What a list of mutations makes of an entry

An entry that starts empty is a map from targets to non-empty sets of keys, in the order
in which its targets came. What the map is can be read off the mutations alone: `keysAfter`
follows one target through them and knows nothing of routes, and a target came at the last
mutation that found it without a route and left it with one (`Arrived`).

* `Entry.Reflects` says all of it of an entry and the mutations behind it.
* `Reflects.apply` is one mutation, and `mutated_reflects` all of them.
-/

namespace ChannelRouting

namespace Mutation

/-- The strategy that was set last. -/
def lastStrategy (ms : List Mutation) : Option Strategy := (ms.filterMap strategy?).getLast?.join

/-- The keys of a target after mutations of an empty entry. -/
def keysAfter (target : ChannelKey) (ms : List Mutation) : Option (Finset String) :=
  ms.foldl (fun held m => m.rekey target held) none

theorem lastStrategy_concat (ms : List Mutation) (m : Mutation) :
    lastStrategy (ms ++ [m]) = m.strategy?.getD (lastStrategy ms) := by
  unfold lastStrategy
  rw [List.filterMap_append]
  cases h : m.strategy? with
  | none =>
    rw [List.filterMap_cons_none h, List.filterMap_nil, List.append_nil, Option.getD_none]
  | some strategy =>
    rw [List.filterMap_cons_some h, List.filterMap_nil, List.getLast?_concat, Option.getD_some,
      Option.join_some]

theorem keysAfter_concat (target : ChannelKey) (ms : List Mutation) (m : Mutation) :
    keysAfter target (ms ++ [m]) = m.rekey target (keysAfter target ms) := by
  unfold keysAfter
  rw [List.foldl_append, List.foldl_cons, List.foldl_nil]

/-! ## Arrivals -/

/-- **A target came at a mutation**: it had no route there, and has had one ever since. -/
structure Arrived (target : ChannelKey) (ms : List Mutation) (i : Nat) : Prop where
  bound : i < ms.length
  absent : keysAfter target (ms.take i) = none
  present : ∀ j, i < j → j ≤ ms.length → (keysAfter target (ms.take j)).isSome = true

/-- A target stays as long as it has a route. -/
theorem Arrived.concat {target : ChannelKey} {ms : List Mutation} {m : Mutation} {i : Nat}
    (h : Arrived target ms i) (stays : (keysAfter target (ms ++ [m])).isSome = true) :
    Arrived target (ms ++ [m]) i where
  bound := by
    rw [List.length_append]
    exact Nat.lt_add_right _ h.bound
  absent := by
    rw [List.take_append_of_le_length (Nat.le_of_lt h.bound)]
    exact h.absent
  present j after within := by
    rw [List.length_append, List.length_singleton] at within
    rcases Nat.le_succ_iff.mp within with before | last
    · rw [List.take_append_of_le_length before]
      exact h.present j after before
    · have whole : (ms ++ [m]).take j = ms ++ [m] := by
        refine List.take_of_length_le ?_
        rw [List.length_append, List.length_singleton, last]
      rw [whole]
      exact stays

/-- A target that had no route comes with the mutation that gives it one. -/
theorem arrived_last {target : ChannelKey} {ms : List Mutation} {m : Mutation}
    (absent : keysAfter target ms = none)
    (comes : (keysAfter target (ms ++ [m])).isSome = true) :
    Arrived target (ms ++ [m]) ms.length where
  bound := by
    rw [List.length_append]
    exact Nat.lt_succ_self _
  absent := by
    rw [List.take_left]
    exact absent
  present j after _ := by
    have whole : (ms ++ [m]).take j = ms ++ [m] := by
      refine List.take_of_length_le ?_
      rw [List.length_append]
      exact after
    rw [whole]
    exact comes

/-- A target with a route came at some mutation. -/
theorem exists_arrived {target : ChannelKey} {ms : List Mutation}
    (h : (keysAfter target ms).isSome = true) : ∃ i, Arrived target ms i := by
  induction ms using List.reverseRecOn with
  | nil => exact nomatch h
  | append_singleton ms m ih =>
    cases before : keysAfter target ms with
    | none => exact ⟨ms.length, arrived_last before h⟩
    | some keys =>
      have present : (keysAfter target ms).isSome = true := by rw [before, Option.isSome_some]
      obtain ⟨i, arrived⟩ := ih present
      exact ⟨i, arrived.concat h⟩

/-- A target came once only since it last had no route. -/
theorem Arrived.unique {target : ChannelKey} {ms : List Mutation} {i j : Nat}
    (hi : Arrived target ms i) (hj : Arrived target ms j) : i = j := by
  have apart : ∀ {i j}, Arrived target ms i → Arrived target ms j → ¬ i < j := by
    intro i j hi hj before
    have present := hi.present j before (Nat.le_of_lt hj.bound)
    rw [hj.absent] at present
    exact nomatch present
  exact Nat.le_antisymm (Nat.not_lt.mp (apart hj hi)) (Nat.not_lt.mp (apart hi hj))

/-- One target came before another. -/
def Before (ms : List Mutation) (t u : ChannelKey) : Prop :=
  ∃ i j, Arrived t ms i ∧ Arrived u ms j ∧ i < j

theorem Before.concat {ms : List Mutation} {m : Mutation} {t u : ChannelKey} (h : Before ms t u)
    (ht : (keysAfter t (ms ++ [m])).isSome = true) (hu : (keysAfter u (ms ++ [m])).isSome = true) :
    Before (ms ++ [m]) t u := by
  obtain ⟨i, j, first, second, before⟩ := h
  exact ⟨i, j, first.concat ht, second.concat hu, before⟩

end Mutation

open Mutation

/-! ## Entries -/

/-- **An entry reflects the mutations behind it.** Its targets are apart and have keys, each
has the keys that the mutations give it, and they stand in the order in which they came. -/
structure Entry.Reflects (channel : ChannelKey) (ms : List Mutation) (e : Entry) : Prop where
  channel : e.channel = channel
  strategy : e.strategy = lastStrategy ms
  wellFormed : e.WellFormed
  keys : ∀ target, e.keySet? target = keysAfter target ms
  order : e.destinations.Pairwise (Before ms)

namespace Entry

theorem reflects_empty (channel : ChannelKey) : Reflects channel [] (.empty channel) where
  channel := rfl
  strategy := rfl
  wellFormed := ⟨.nil, fun _ hr => nomatch hr⟩
  keys _ := rfl
  order := .nil

variable {channel : ChannelKey} {ms : List Mutation} {e : Entry}

/-- The targets are those with keys. -/
theorem Reflects.mem_destinations (h : e.Reflects channel ms) {target : ChannelKey} :
    target ∈ e.destinations ↔ (keysAfter target ms).isSome = true := by
  rw [Entry.mem_destinations, h.keys]

/-- **One more mutation.** -/
theorem Reflects.apply (h : e.Reflects channel ms) (m : Mutation) :
    (m.apply e).Reflects channel (ms ++ [m]) := by
  have keys : ∀ target, (m.apply e).keySet? target = keysAfter target (ms ++ [m]) := by
    intro target
    rw [keySet?_apply, h.keys, keysAfter_concat]
  have present : ∀ target ∈ (m.apply e).destinations,
      (keysAfter target (ms ++ [m])).isSome = true := by
    intro target ht
    rw [← keys]
    exact Entry.mem_destinations.mp ht
  -- Targets that were there and still are keep their order.
  have kept : ∀ {l : List ChannelKey}, l.Sublist e.destinations → l ⊆ (m.apply e).destinations →
      l.Pairwise (Before (ms ++ [m])) := by
    intro l old still
    refine (h.order.sublist old).imp_of_mem ?_
    intro t u ht hu before
    exact before.concat (present t (still ht)) (present u (still hu))
  refine ⟨(channel_apply m e).trans h.channel, ?_, wellFormed_apply h.wellFormed m, keys, ?_⟩
  · rw [strategy_apply, h.strategy, lastStrategy_concat]
  · rcases destinations_apply m e with same | ⟨target, new, more⟩ | ⟨target, less⟩
    · rw [same] at kept ⊢
      exact kept (.refl _) (List.Subset.refl _)
    · rw [more] at kept present ⊢
      have old := kept (.refl _) (List.subset_append_left _ _)
      have absent : keysAfter target ms = none :=
        Option.not_isSome_iff_eq_none.mp (mt h.mem_destinations.mpr new)
      have comes := arrived_last absent (present target (List.mem_append_right _ List.mem_cons_self))
      refine List.pairwise_append.mpr ⟨old, List.pairwise_singleton _ _, ?_⟩
      intro t ht u hu
      rw [List.mem_singleton.mp hu]
      obtain ⟨i, arrived⟩ := exists_arrived (h.mem_destinations.mp ht)
      have stays := present t (List.mem_append_left _ ht)
      exact ⟨i, ms.length, arrived.concat stays, comes, arrived.bound⟩
    · rw [less] at kept ⊢
      exact kept List.filter_sublist (List.Subset.refl _)

theorem applyAll_concat (e : Entry) (ms : List Mutation) (m : Mutation) :
    applyAll e (ms ++ [m]) = m.apply (applyAll e ms) := by
  unfold applyAll
  rw [List.foldl_append, List.foldl_cons, List.foldl_nil]

theorem reflects_applyAll (channel : ChannelKey) (ms : List Mutation) :
    (applyAll (.empty channel) ms).Reflects channel ms := by
  induction ms using List.reverseRecOn with
  | nil => exact reflects_empty channel
  | append_singleton ms m ih =>
    rw [applyAll_concat]
    exact ih.apply m

/-- Mutations never take a whole entry away. -/
theorem foldl_applyIfPresent (e : Entry) (ms : List Mutation) :
    ms.foldl (fun present m => m.applyIfPresent present) (some e) = some (applyAll e ms) := by
  induction ms using List.reverseRecOn with
  | nil => rfl
  | append_singleton ms m ih =>
    rw [List.foldl_append, ih, applyAll_concat]
    rfl

/-- **An entry built by mutations reflects them**, whatever they are: it is a map from targets
to non-empty sets of keys, in the order in which the targets came. -/
theorem mutated_reflects (channel : ChannelKey) (ms : List Mutation) :
    ∃ e, ms.foldl (fun present m => m.applyIfPresent present) (some (.empty channel)) = some e ∧
      e.Reflects channel ms := by
  have built := foldl_applyIfPresent (.empty channel) ms
  exact ⟨applyAll (.empty channel) ms, built, reflects_applyAll channel ms⟩

/-- A target that went and came again stands last, whatever is added to others since. -/
example :
    let a : ChannelKey := ⟨"a"⟩
    let b : ChannelKey := ⟨"b"⟩
    (applyAll (.empty ⟨"source"⟩) [.addRoute a [], .addRoute b ["k"], .removeRoute a [],
      .addRoute a ["k"], .addRoute b ["l"]]).destinations = [b, a] := by
  decide

end Entry

end ChannelRouting
