import ChannelRouting.Proofs.Entry.Arrival
import Mathlib.Data.List.Perm.Basic

/-!
# Mutations in another order

Callers that share an entry mutate it in an order that nobody fixes. Much of that order does
not matter. Mutations addressed to different targets never meet, and mutations of one target
that only add keys commute; setting the strategy meets nothing but itself.

* `Interchanged` says of two lists that they hold the same mutations, in an order that differs
  only where it does not matter. It is a condition on the mutations alone, and decidable.
* `Entry.Alike` says of two entries that they differ in the order of their routes at most.
  Routing does not see that order (`Alike.targets_eq`).
* `interchanged_converge` is the result: interchanged mutations of one entry lead to entries
  that are alike.
-/

namespace ChannelRouting

namespace Mutation

/-- The target that a mutation is addressed to. -/
def target? : Mutation → Option ChannelKey
  | addRoute target _ | removeRoute target _ => some target
  | setStrategy _ => none

def isAdd : Mutation → Bool
  | addRoute .. => true
  | removeRoute .. | setStrategy _ => false

/-- The mutations that are addressed to a target, in order. -/
def addressedTo (target : ChannelKey) (ms : List Mutation) : List Mutation :=
  ms.filter fun m => m.target? = some target

/-- The mutations that set the strategy, in order. -/
def settings (ms : List Mutation) : List Mutation := ms.filter fun m => m.strategy?.isSome

/-- **The same mutations in another order that does not matter.** Those that set the strategy keep
their order, and so do those addressed to a target, unless all of these are additions. -/
structure Interchanged (ms ns : List Mutation) : Prop where
  perm : ms.Perm ns
  settings : settings ms = settings ns
  targets : ∀ target, addressedTo target ms = addressedTo target ns ∨
    ∀ m ∈ addressedTo target ms, m.isAdd = true

/-- No mutation is addressed to a target that is not named. -/
theorem addressedTo_eq_nil {target : ChannelKey} {ms : List Mutation}
    (h : target ∉ ms.filterMap target?) : addressedTo target ms = [] := by
  refine List.filter_eq_nil_iff.mpr fun m hm addressed => h ?_
  exact List.mem_filterMap.mpr ⟨m, hm, of_decide_eq_true addressed⟩

/-- Only the targets that are named need to be looked at. -/
instance (ms ns : List Mutation) : Decidable (Interchanged ms ns) :=
  decidable_of_iff
    (ms.Perm ns ∧ Mutation.settings ms = Mutation.settings ns ∧
      ∀ target ∈ ms.filterMap target?, addressedTo target ms = addressedTo target ns ∨
        ∀ m ∈ addressedTo target ms, m.isAdd = true)
    (by
      constructor
      · rintro ⟨perm, settings, named⟩
        refine ⟨perm, settings, fun target => ?_⟩
        by_cases h : target ∈ ms.filterMap target?
        · exact named target h
        · refine .inr fun m hm => ?_
          rw [addressedTo_eq_nil h] at hm
          exact nomatch hm
      · rintro ⟨perm, settings, targets⟩
        exact ⟨perm, settings, fun target _ => targets target⟩)

/-! ## What the order does to strategy and keys -/

/-- The strategy depends on the mutations that set one. -/
theorem strategy_applyAll (e : Entry) (ms : List Mutation) :
    (applyAll e ms).strategy =
      (Mutation.settings ms).foldl (fun s m => m.strategy?.getD s) e.strategy := by
  induction ms generalizing e with
  | nil => rfl
  | cons m rest ih =>
    show (applyAll (m.apply e) rest).strategy = _
    rw [ih, strategy_apply]
    cases hs : m.strategy? with
    | none =>
      have skipped : Mutation.settings (m :: rest) = Mutation.settings rest :=
        List.filter_cons_of_neg (by rw [hs]; exact Bool.false_ne_true)
      rw [skipped, Option.getD_none]
    | some strategy =>
      have kept : Mutation.settings (m :: rest) = m :: Mutation.settings rest :=
        List.filter_cons_of_pos (by rw [hs]; rfl)
      rw [kept, List.foldl_cons, hs]

theorem keySet?_applyAll (e : Entry) (ms : List Mutation) (target : ChannelKey) :
    (applyAll e ms).keySet? target =
      ms.foldl (fun held m => m.rekey target held) (e.keySet? target) := by
  induction ms generalizing e with
  | nil => rfl
  | cons m rest ih =>
    show (applyAll (m.apply e) rest).keySet? target = _
    rw [ih, keySet?_apply, List.foldl_cons]

/-- A mutation leaves the keys of other targets alone. -/
theorem rekey_of_ne {target : ChannelKey} {m : Mutation} (h : m.target? ≠ some target)
    (held : Option (Finset String)) : m.rekey target held = held := by
  cases m with
  | addRoute t keys | removeRoute t keys => exact if_neg fun same => h (congrArg some same)
  | setStrategy strategy => rfl

/-- The keys of a target depend on the mutations addressed to it. -/
theorem foldl_rekey (target : ChannelKey) (ms : List Mutation) (held : Option (Finset String)) :
    ms.foldl (fun held m => m.rekey target held) held =
      (addressedTo target ms).foldl (fun held m => m.rekey target held) held := by
  rw [addressedTo, List.foldl_filter]
  congr 1
  funext held m
  by_cases h : m.target? = some target
  · rw [if_pos (decide_eq_true h)]
  · rw [if_neg (mt of_decide_eq_true h), rekey_of_ne h]

/-- **Additions commute**: a target gets the union of their keys. -/
theorem rekey_comm {m n : Mutation} (hm : m.isAdd = true) (hn : n.isAdd = true)
    (target : ChannelKey) (held : Option (Finset String)) :
    n.rekey target (m.rekey target held) = m.rekey target (n.rekey target held) := by
  cases m with
  | addRoute t keys =>
    cases n with
    | addRoute u more =>
      by_cases ht : t = target
      · by_cases hu : u = target
        · simp only [rekey, if_pos ht, if_pos hu, Option.getD_some]
          rw [Finset.union_right_comm]
        · simp only [rekey, if_neg hu]
      · simp only [rekey, if_neg ht]
    | removeRoute | setStrategy => cases hn
  | removeRoute | setStrategy => cases hm

variable {ms ns : List Mutation}

theorem Interchanged.strategy_eq (h : Interchanged ms ns) (e : Entry) :
    (applyAll e ms).strategy = (applyAll e ns).strategy := by
  rw [strategy_applyAll, strategy_applyAll, h.settings]

theorem Interchanged.keySet?_eq (h : Interchanged ms ns) (e : Entry) (target : ChannelKey) :
    (applyAll e ms).keySet? target = (applyAll e ns).keySet? target := by
  rw [keySet?_applyAll, keySet?_applyAll, foldl_rekey target ms, foldl_rekey target ns]
  rcases h.targets target with same | adds
  · rw [same]
  · have perm : (addressedTo target ms).Perm (addressedTo target ns) := h.perm.filter _
    refine perm.foldl_eq' (fun m hm n hn held => ?_) _
    exact rekey_comm (adds m hm) (adds n hn) target held

end Mutation

open Mutation

/-! ## Entries that are alike -/

namespace Entry

theorem channel_applyAll (e : Entry) (ms : List Mutation) : (applyAll e ms).channel = e.channel := by
  induction ms generalizing e with
  | nil => rfl
  | cons m rest ih => exact (ih (m.apply e)).trans (channel_apply m e)

theorem wellFormed_applyAll {e : Entry} (h : e.WellFormed) (ms : List Mutation) :
    (applyAll e ms).WellFormed := by
  induction ms generalizing e with
  | nil => exact h
  | cons m rest ih => exact ih (wellFormed_apply h m)

/-- **Entries that differ in the order of their routes at most.** -/
structure Alike (e₁ e₂ : Entry) : Prop where
  channel : e₁.channel = e₂.channel
  strategy : e₁.strategy = e₂.strategy
  routes : e₁.routes.Perm e₂.routes

/-- A route that is found is a route to the target that was looked for. -/
theorem target_of_route? {e : Entry} {target : ChannelKey} {r : Route}
    (h : e.route? target = some r) : r.target = target := by
  have found := List.find?_some h
  simpa only [decide_eq_true_eq] using found

/-- The keys of a target and the target are all of a route. -/
theorem route?_eq_of_keySet?_eq {e₁ e₂ : Entry} {target : ChannelKey}
    (h : e₁.keySet? target = e₂.keySet? target) : e₁.route? target = e₂.route? target := by
  unfold keySet? at h
  cases h₁ : e₁.route? target with
  | none =>
    rw [h₁, Option.map_none] at h
    exact (Option.map_eq_none_iff.mp h.symm).symm
  | some r₁ =>
    rw [h₁, Option.map_some] at h
    obtain ⟨r₂, h₂, same⟩ := Option.map_eq_some_iff.mp h.symm
    have keys : r₁.keys = r₂.keys := by
      refine SortedSet.ext_mem fun key => ?_
      rw [← SortedSet.mem_toFinset, ← SortedSet.mem_toFinset, same]
    have targets : r₁.target = r₂.target := (target_of_route? h₁).trans (target_of_route? h₂).symm
    rw [h₂]
    cases r₁
    cases r₂
    cases keys
    cases targets
    rfl

/-- The routes of a well-formed entry are those that are found. -/
theorem WellFormed.mem_routes {e : Entry} (h : e.WellFormed) {r : Route} :
    r ∈ e.routes ↔ e.route? r.target = some r := by
  constructor
  · intro hr
    have present : (e.route? r.target).isSome = true := by
      refine List.find?_isSome.mpr ⟨r, hr, ?_⟩
      exact decide_eq_true rfl
    obtain ⟨found, hf⟩ := Option.isSome_iff_exists.mp present
    have member : found ∈ e.routes := List.mem_of_find?_eq_some hf
    rw [hf, List.inj_on_of_nodup_map h.nodup member hr (target_of_route? hf)]
  · exact List.mem_of_find?_eq_some

/-- Well-formed entries with the same keys for every target have the same routes. -/
theorem routes_perm {e₁ e₂ : Entry} (h₁ : e₁.WellFormed) (h₂ : e₂.WellFormed)
    (keys : ∀ target, e₁.keySet? target = e₂.keySet? target) : e₁.routes.Perm e₂.routes := by
  refine (List.perm_ext_iff_of_nodup h₁.nodup.of_map h₂.nodup.of_map).mpr fun r => ?_
  rw [h₁.mem_routes, h₂.mem_routes, route?_eq_of_keySet?_eq (keys r.target)]

/-- **Routing does not see the order of routes**, whatever the strategy. -/
theorem Alike.targets_eq {e₁ e₂ : Entry} (h : Alike e₁ e₂) (m : Message) :
    e₁.targets m = e₂.targets m := by
  cases hs : e₂.strategy with
  | none => rw [targets_of_none hs, targets_of_none (h.strategy.trans hs)]
  | some strategy =>
    rw [targets_of_some hs, targets_of_some (h.strategy.trans hs)]
    refine SortedSet.ext_mem fun target => ?_
    rw [Strategy.mem_targets, Strategy.mem_targets]
    simp only [h.routes.mem_iff]

/-- **Callers on different targets, or that only add, converge.** In whichever of two interchanged
orders their mutations meet an entry, they leave it with the same strategy and the same keys for
every target, so every message is routed to the same targets; only the order of the routes may
differ. -/
theorem interchanged_converge (channel : ChannelKey) (history : List Mutation)
    {ms ns : List Mutation} (h : Interchanged ms ns) :
    ∃ e₁ e₂,
      ms.foldl (fun present m => m.applyIfPresent present)
        (some (applyAll (.empty channel) history)) = some e₁ ∧
      ns.foldl (fun present m => m.applyIfPresent present)
        (some (applyAll (.empty channel) history)) = some e₂ ∧
      e₁.Alike e₂ ∧ (∀ target, e₁.keySet? target = e₂.keySet? target) ∧
      ∀ m, e₁.targets m = e₂.targets m := by
  have start := (reflects_applyAll channel history).wellFormed
  generalize applyAll (.empty channel) history = e at start
  have keys := h.keySet?_eq e
  have alike : (applyAll e ms).Alike (applyAll e ns) :=
    { channel := (channel_applyAll e ms).trans (channel_applyAll e ns).symm
      strategy := h.strategy_eq e
      routes := routes_perm (wellFormed_applyAll start ms) (wellFormed_applyAll start ns) keys }
  exact ⟨applyAll e ms, applyAll e ns, foldl_applyIfPresent e ms, foldl_applyIfPresent e ns, alike,
    keys, alike.targets_eq⟩

/-- One caller takes keys from `a` and gives it others, two add to `b` and `c`, and the strategy is
set twice. -/
def oneOrder : List Mutation :=
  [.removeRoute ⟨"a"⟩ ["k"], .addRoute ⟨"b"⟩ ["x"], .setStrategy (some .direct), .addRoute ⟨"a"⟩ ["l"],
    .addRoute ⟨"c"⟩ [], .addRoute ⟨"b"⟩ [], .setStrategy (some .topic)]

/-- The same with `c` and `b` the other way round. -/
def otherOrder : List Mutation :=
  [.addRoute ⟨"c"⟩ [], .addRoute ⟨"b"⟩ [], .setStrategy (some .direct), .removeRoute ⟨"a"⟩ ["k"],
    .setStrategy (some .topic), .addRoute ⟨"a"⟩ ["l"], .addRoute ⟨"b"⟩ ["x"]]

/-- The routes of the two results stand in different orders. -/
theorem interchanged_converge_orders :
    Interchanged oneOrder otherOrder ∧
      (applyAll (.empty ⟨"s"⟩) (.addRoute ⟨"a"⟩ ["k"] :: oneOrder)).destinations ≠
        (applyAll (.empty ⟨"s"⟩) (.addRoute ⟨"a"⟩ ["k"] :: otherOrder)).destinations ∧
      ∃ e₁ e₂,
        oneOrder.foldl (fun present m => m.applyIfPresent present)
          (some (applyAll (.empty ⟨"s"⟩) [.addRoute ⟨"a"⟩ ["k"]])) = some e₁ ∧
        otherOrder.foldl (fun present m => m.applyIfPresent present)
          (some (applyAll (.empty ⟨"s"⟩) [.addRoute ⟨"a"⟩ ["k"]])) = some e₂ ∧
        e₁.Alike e₂ ∧ (∀ target, e₁.keySet? target = e₂.keySet? target) ∧
        ∀ m, e₁.targets m = e₂.targets m := by
  have interchanged : Interchanged oneOrder otherOrder := by decide
  exact ⟨interchanged, by decide, interchanged_converge ⟨"s"⟩ [.addRoute ⟨"a"⟩ ["k"]] interchanged⟩

end Entry

end ChannelRouting
