import ChannelRouting.Config.Load
import ChannelRouting.Proofs.Entry.Interchange
import Mathlib.Data.Finset.Lattice.Lemmas

/-!
# What a configuration says

`Config.targetsFor` reads off a configuration to which targets a message is to go: the routes
of its source to one target count as one route, under all their keys, and the strategy of the
source selects among these. Nothing here mentions entries or mutations.

A one-shot run builds an entry for each source by mutations (`RouterSetting.entry`), and that
entry routes a message to the very targets the configuration says (`RouterSetting.targets_entry`).

`Config.Sound` is what a configuration that was accepted has to offer: its sources have
different names, and every message is for one of them.
-/

namespace ChannelRouting

/-- The keys of a configured route; a route that lists none has the default key. -/
def RouteSetting.routingKeys (r : RouteSetting) : List String :=
  if r.keys.isEmpty then [defaultRoutingKey] else r.keys

namespace RouterSetting

/-- The configured routes to a target. -/
def routesTo (r : RouterSetting) (target : ChannelKey) : List RouteSetting :=
  r.routes.filter fun x => ChannelKey.mk x.target = target

/-- All routes to a target as one. -/
def routeTo (r : RouterSetting) (target : ChannelKey) : Route :=
  { target := target, keys := .ofList ((r.routesTo target).flatMap RouteSetting.routingKeys) }

def destinations (r : RouterSetting) : SortedSet ChannelKey :=
  .ofList (r.routes.map fun x => ⟨x.target⟩)

/-- **The targets of a routing key**, none without a strategy. -/
def targetsFor (r : RouterSetting) (key : String) : SortedSet ChannelKey :=
  match r.strategy with
  | some s => r.destinations.filter fun t => s.selects key (r.routeTo t)
  | none => .empty

/-- The mutations that set up the entry of a source. -/
def mutations (r : RouterSetting) : List Mutation :=
  .setStrategy r.strategy :: r.routes.map fun x => .addRoute ⟨x.target⟩ x.keys

/-- The entry of a source once it is set up. -/
def entry (r : RouterSetting) : Entry := Mutation.applyAll (.empty ⟨r.source⟩) r.mutations

end RouterSetting

namespace Config

/-- The targets of a message to begin with. -/
def targetsFor (c : Config) (s : SeedMessage) : SortedSet ChannelKey :=
  match c.routers.find? fun r => r.source = s.source with
  | some r => r.targetsFor (s.routingKey.getD defaultRoutingKey)
  | none => .empty

/-- **What an accepted configuration offers.** -/
structure Sound (c : Config) : Prop where
  distinct : c.sources.Nodup
  known : ∀ s ∈ c.seeds, s.source ∈ c.sources

end Config

/-! ## The entry of a source -/

namespace RouterSetting

variable {r : RouterSetting} {target : ChannelKey}

theorem mem_destinations : target ∈ r.destinations ↔ r.routesTo target ≠ [] := by
  rw [destinations, SortedSet.mem_ofList, List.mem_map, routesTo, Ne, List.filter_eq_nil_iff]
  simp only [decide_eq_true_eq, not_forall, not_not, exists_prop]

/-- Adding a route gives its target the keys of the route. -/
theorem rekey_addRoute (x : RouteSetting) (held : Option (Finset String)) :
    (Mutation.addRoute ⟨x.target⟩ x.keys).rekey ⟨x.target⟩ held =
      some (held.getD ∅ ∪ x.routingKeys.toFinset) := by
  rw [Mutation.rekey, if_pos rfl, ← Mutation.toFinset_added]
  rfl

/-- What adding routes to one target makes of its keys. -/
theorem foldl_rekey_addRoute {given : List RouteSetting} (some_given : given ≠ [])
    (own : ∀ x ∈ given, ChannelKey.mk x.target = target) (held : Option (Finset String)) :
    (given.map fun x => Mutation.addRoute ⟨x.target⟩ x.keys).foldl
        (fun held m => m.rekey target held) held =
      some (held.getD ∅ ∪ (given.flatMap RouteSetting.routingKeys).toFinset) := by
  induction given generalizing held with
  | nil => exact absurd rfl some_given
  | cons x rest ih =>
    rw [List.map_cons, List.foldl_cons, ← own x List.mem_cons_self, rekey_addRoute,
      own x List.mem_cons_self]
    cases rest with
    | nil => simp only [List.map_nil, List.foldl_nil, List.flatMap_cons, List.flatMap_nil,
        List.append_nil]
    | cons y rest =>
      rw [ih (List.cons_ne_nil y rest) (fun z hz => own z (List.mem_cons_of_mem x hz)),
        Option.getD_some, Finset.union_assoc, ← List.toFinset_append, ← List.flatMap_cons]

theorem addressedTo_mutations (r : RouterSetting) (target : ChannelKey) :
    Mutation.addressedTo target r.mutations =
      (r.routesTo target).map fun x => .addRoute ⟨x.target⟩ x.keys := by
  rw [mutations, Mutation.addressedTo, List.filter_cons_of_neg (by simp [Mutation.target?]),
    List.filter_map, routesTo]
  refine congrArg _ (List.filter_congr fun x _ => ?_)
  simp only [Function.comp_apply, Mutation.target?, Option.some.injEq]

theorem strategy_entry (r : RouterSetting) : r.entry.strategy = r.strategy := by
  have none_else : Mutation.settings r.mutations = [.setStrategy r.strategy] := by
    rw [mutations, Mutation.settings, List.filter_cons_of_pos (by rfl), List.filter_map,
      List.filter_eq_nil_iff.mpr fun x _ => (by simp [Mutation.strategy?]), List.map_nil]
  rw [entry, Mutation.strategy_applyAll, none_else]
  rfl

theorem keySet?_entry (r : RouterSetting) (target : ChannelKey) :
    r.entry.keySet? target =
      if target ∈ r.destinations then some (r.routeTo target).keys.toFinset else none := by
  rw [entry, Mutation.keySet?_applyAll, Mutation.foldl_rekey, addressedTo_mutations]
  have union : (r.routeTo target).keys.toFinset =
      ((r.routesTo target).flatMap RouteSetting.routingKeys).toFinset := by
    ext key
    rw [SortedSet.mem_toFinset, routeTo, SortedSet.mem_ofList, List.mem_toFinset]
  by_cases configured : target ∈ r.destinations
  · rw [if_pos configured, union, foldl_rekey_addRoute (mem_destinations.mp configured)
      fun x hx => of_decide_eq_true (List.mem_filter.mp hx).2]
    exact congrArg some (Finset.empty_union _)
  · rw [if_neg configured, not_not.mp (mt mem_destinations.mpr configured)]
    rfl

/-- **The routes of the entry**: one for each configured target, under all its keys. -/
theorem route?_entry (r : RouterSetting) (target : ChannelKey) :
    r.entry.route? target = if target ∈ r.destinations then some (r.routeTo target) else none := by
  have keys := r.keySet?_entry target
  by_cases configured : target ∈ r.destinations
  · rw [if_pos configured] at keys ⊢
    -- An entry with this one route has the same keys.
    have alone : Entry.route? { channel := default, strategy := none, routes := [r.routeTo target] }
        target = some (r.routeTo target) := List.find?_cons_of_pos (decide_eq_true rfl)
    rw [← alone]
    refine Entry.route?_eq_of_keySet?_eq (keys.trans ?_)
    rw [Entry.keySet?, alone, Option.map_some]
  · rw [if_neg configured] at keys ⊢
    exact Option.map_eq_none_iff.mp keys

theorem wellFormed_entry (r : RouterSetting) : r.entry.WellFormed :=
  (Entry.reflects_applyAll _ _).wellFormed

/-- **The entry routes as the configuration says.** -/
theorem targets_entry (r : RouterSetting) (m : Message) :
    r.entry.targets m = r.targetsFor m.routingKey := by
  unfold targetsFor
  cases hs : r.strategy with
  | none => exact Entry.targets_of_none (r.strategy_entry.trans hs) m
  | some s =>
    rw [Entry.targets_of_some (r.strategy_entry.trans hs)]
    refine SortedSet.ext_mem fun t => ?_
    rw [Strategy.mem_targets, SortedSet.mem_filter]
    constructor
    · rintro ⟨route, hr, selected, rfl⟩
      have found := r.wellFormed_entry.mem_routes.mp hr
      rw [route?_entry] at found
      split at found
      · next configured =>
        rw [Option.some.inj found]
        exact ⟨configured, selected⟩
      · cases found
    · rintro ⟨configured, selected⟩
      have found := route?_entry r t
      rw [if_pos configured] at found
      exact ⟨r.routeTo t, List.mem_of_find?_eq_some found, selected, rfl⟩

end RouterSetting

/-! ## Accepted configurations -/

namespace Config

/-- Sources in which nothing is wrong have different names, none of which was seen before. -/
theorem nodup_of_routersOffence? {seen : SortedSet String} {routers : List RouterSetting}
    (h : routersOffence? seen routers = none) :
    (routers.map RouterSetting.source).Nodup ∧ ∀ r ∈ routers, r.source ∉ seen := by
  induction routers generalizing seen with
  | nil => exact ⟨List.nodup_nil, fun _ hr => nomatch hr⟩
  | cons r rest ih =>
    obtain ⟨own, others⟩ := Option.or_eq_none_iff.mp h
    obtain ⟨distinct, fresh⟩ := ih others
    have unseen : r.source ∉ seen := by
      intro seen_before
      rw [routerOffence?, if_pos seen_before] at own
      split at own <;> cases own
    refine ⟨List.nodup_cons.mpr ⟨?_, distinct⟩, ?_⟩
    · intro again
      obtain ⟨r', hr', same⟩ := List.mem_map.mp again
      exact fresh r' hr' (SortedSet.mem_insert.mpr (.inl same))
    · intro r' hr' seen_before
      rcases List.mem_cons.mp hr' with rfl | hr'
      · exact unseen seen_before
      · exact fresh r' hr' (SortedSet.mem_insert.mpr (.inr seen_before))

/-- **An accepted configuration is sound.** -/
theorem sound_of_parse {text : String} {c : Config} (h : parse text = .ok c) : c.Sound := by
  have valid : c.offence? = none := by
    unfold parse at h
    split at h
    · cases h
    · split at h
      · cases h
      · split at h
        · cases h
        · next c' _ accepted =>
          cases h
          unfold validate at accepted
          cases ho : c.offence? with
          | none => rfl
          | some o =>
            rw [ho] at accepted
            cases accepted
  obtain ⟨routers, rest⟩ := Option.or_eq_none_iff.mp valid
  obtain ⟨seeds, -⟩ := Option.or_eq_none_iff.mp rest
  refine ⟨(nodup_of_routersOffence? routers).1, fun s hs => ?_⟩
  have found := List.find?_eq_none.mp (Option.map_eq_none_iff.mp seeds) s hs
  simpa only [decide_eq_true_eq, not_not] using found

/-- The targets of a message for a source of a sound configuration are those that the source has for
its key. -/
theorem Sound.targetsFor_eq {c : Config} (h : c.Sound) {r : RouterSetting} (hr : r ∈ c.routers)
    {s : SeedMessage} (own : r.source = s.source) :
    c.targetsFor s = r.targetsFor (s.routingKey.getD defaultRoutingKey) := by
  have present : (c.routers.find? fun r => r.source = s.source).isSome = true :=
    List.find?_isSome.mpr ⟨r, hr, decide_eq_true own⟩
  obtain ⟨found, hf⟩ := Option.isSome_iff_exists.mp present
  have same : found.source = r.source := by
    have named := List.find?_some hf
    exact (of_decide_eq_true named).trans own.symm
  have found_eq : found = r :=
    List.inj_on_of_nodup_map h.distinct (List.mem_of_find?_eq_some hf) hr same
  rw [targetsFor, hf, found_eq]

end Config

end ChannelRouting
