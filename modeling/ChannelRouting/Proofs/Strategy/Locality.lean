import ChannelRouting.Proofs.Entry.Interchange
import ChannelRouting.Proofs.Strategy.Wildcards

/-!
# Route changes and where messages go

A strategy looks at one key of a route at a time: `Strategy.admits` says whether a key lets a
message through, and a message reaches the targets that have a key which does
(`WellFormed.mem_targets`). So where a message goes follows from the keys of each target, and what
a mutation does to those is a matter of its own target (`mem_keysOf_addRoute`,
`mem_keysOf_removeRoute`).

Put together: adding a route only adds, removing one only takes away, and neither touches a target
other than its own (`Entry.Local`, `mutations_are_local`). That holds of each strategy, for it
holds of keys. The three part where they say which keys let a message through; of the default key
they all say that it lets a message through that names no routing key
(`Strategy.admits_default`).
-/

namespace ChannelRouting

namespace Strategy

/-- Whether a key of a route lets a message with a routing key through. -/
def admits (s : Strategy) (pattern key : String) : Bool :=
  match s with
  | direct => decide (pattern = key)
  | fanout => true
  | topic => Topic.matches pattern key

/-- A route is selected if one of its keys lets the message through. -/
theorem selects_iff {r : Route} (keyed : r.keys.isEmpty = false) (s : Strategy) (key : String) :
    s.selects key r = true ↔ ∃ pattern ∈ r.keys, s.admits pattern key = true := by
  cases s with
  | direct =>
    have held : Strategy.direct.selects key r = true ↔ key ∈ r.keys := decide_eq_true_iff
    rw [held]
    constructor
    · intro held
      exact ⟨key, held, decide_eq_true rfl⟩
    · rintro ⟨pattern, held, same⟩
      rw [← of_decide_eq_true same]
      exact held
  | fanout =>
    obtain ⟨pattern, held⟩ := List.exists_mem_of_ne_nil _ (List.isEmpty_eq_false_iff.mp keyed)
    exact iff_of_true rfl ⟨pattern, held, rfl⟩
  | topic => exact List.any_eq_true

/-- The default key lets a message through that names no routing key. -/
theorem admits_default (s : Strategy) : s.admits defaultRoutingKey defaultRoutingKey = true := by
  cases s with
  | direct | fanout => rfl
  | topic => exact Topic.matches_self _

end Strategy

open Mutation

/-! ## Keys of a target -/

namespace Entry

theorem mem_keysOf {e : Entry} {target : ChannelKey} {key : String} :
    key ∈ e.keysOf target ↔ key ∈ (e.keySet? target).getD ∅ := by
  rw [← toFinset_keysOf, SortedSet.mem_toFinset]

/-- **Where a message goes**: to the targets that have a key which lets it through. -/
theorem WellFormed.mem_targets {e : Entry} (h : e.WellFormed) (s : Strategy) (m : Message)
    {target : ChannelKey} :
    target ∈ s.targets m e.routes ↔
      ∃ pattern ∈ e.keysOf target, s.admits pattern m.routingKey = true := by
  have keysOf_of_found {r : Route} (found : e.route? target = some r) :
      e.keysOf target = r.keys := by
    rw [keysOf, found]
    rfl
  rw [Strategy.mem_targets]
  constructor
  · rintro ⟨r, present, selected, rfl⟩
    rw [keysOf_of_found (h.mem_routes.mp present)]
    exact (Strategy.selects_iff (h.keyed r present) s _).mp selected
  · rintro ⟨pattern, held, admitted⟩
    cases found : e.route? target with
    | none =>
      rw [keysOf, found] at held
      cases held
    | some r =>
      have present : r ∈ e.routes := List.mem_of_find?_eq_some found
      rw [keysOf_of_found found] at held
      refine ⟨r, present, ?_, target_of_route? found⟩
      exact (Strategy.selects_iff (h.keyed r present) s _).mpr ⟨pattern, held, admitted⟩

end Entry

namespace Mutation

/-- Adding a route gives keys to its target alone. -/
theorem mem_keysOf_addRoute (e : Entry) (target : ChannelKey) (keys : List String)
    (u : ChannelKey) (key : String) :
    key ∈ ((addRoute target keys).apply e).keysOf u ↔
      key ∈ e.keysOf u ∨ u = target ∧ key ∈ added keys := by
  rw [Entry.mem_keysOf, Entry.mem_keysOf, keySet?_apply, rekey]
  by_cases own : target = u
  · rw [if_pos own, Option.getD_some, ← toFinset_added, Finset.mem_union, List.mem_toFinset]
    exact or_congr_right (and_iff_right own.symm).symm
  · rw [if_neg own]
    refine (or_iff_left ?_).symm
    rintro ⟨same, -⟩
    exact own same.symm

/-- Removing a route takes keys from its target alone: those it names, or all if it names none. -/
theorem mem_keysOf_removeRoute (e : Entry) (target : ChannelKey) (keys : List String)
    (u : ChannelKey) (key : String) :
    key ∈ ((removeRoute target keys).apply e).keysOf u ↔
      key ∈ e.keysOf u ∧ ¬ (u = target ∧ (keys = [] ∨ key ∈ keys)) := by
  rw [Entry.mem_keysOf, Entry.mem_keysOf, keySet?_apply, rekey]
  by_cases own : target = u
  · rw [if_pos own, and_iff_right own.symm]
    cases e.keySet? u with
    | none => exact iff_of_false (Finset.notMem_empty key) fun h => Finset.notMem_empty key h.1
    | some held =>
      rw [Option.bind_some, Option.getD_some]
      by_cases gone : keys = [] ∨ held \ keys.toFinset = ∅
      · rw [if_pos gone]
        refine iff_of_false (Finset.notMem_empty key) ?_
        rintro ⟨present, stays⟩
        rcases gone with all | nothing
        · exact stays (.inl all)
        · have named := Finset.sdiff_eq_empty_iff_subset.mp nothing present
          exact stays (.inr (List.mem_toFinset.mp named))
      · rw [if_neg gone, Option.getD_some, Finset.mem_sdiff, List.mem_toFinset,
          or_iff_right (not_or.mp gone).1]
  · rw [if_neg own]
    refine (and_iff_left ?_).symm
    rintro ⟨same, -⟩
    exact own same.symm

variable {e : Entry} (h : e.WellFormed) (target : ChannelKey) (keys : List String) (s : Strategy)
  (m : Message) (u : ChannelKey)

include h

/-- **Where a message goes once a route was added.** -/
theorem mem_targets_addRoute :
    u ∈ s.targets m ((addRoute target keys).apply e).routes ↔
      u ∈ s.targets m e.routes ∨
        u = target ∧ ∃ pattern ∈ added keys, s.admits pattern m.routingKey = true := by
  rw [(wellFormed_apply h _).mem_targets, h.mem_targets]
  simp only [mem_keysOf_addRoute]
  constructor
  · rintro ⟨pattern, held | ⟨own, new⟩, admitted⟩
    · exact .inl ⟨pattern, held, admitted⟩
    · exact .inr ⟨own, pattern, new, admitted⟩
  · rintro (⟨pattern, held, admitted⟩ | ⟨own, pattern, new, admitted⟩)
    · exact ⟨pattern, .inl held, admitted⟩
    · exact ⟨pattern, .inr ⟨own, new⟩, admitted⟩

/-- **Where a message goes once a route was removed.** -/
theorem mem_targets_removeRoute :
    u ∈ s.targets m ((removeRoute target keys).apply e).routes ↔
      ∃ pattern ∈ e.keysOf u, s.admits pattern m.routingKey = true ∧
        ¬ (u = target ∧ (keys = [] ∨ pattern ∈ keys)) := by
  rw [(wellFormed_apply h _).mem_targets]
  simp only [mem_keysOf_removeRoute]
  refine exists_congr fun pattern => ?_
  rw [and_assoc]
  exact and_congr_right fun _ => and_comm

end Mutation

/-! ## Changes of an entry -/

/-- **Route changes are local**, for a message and a strategy: a change touches where the message
goes at its own target alone, and there in one direction. -/
structure Entry.Local (e : Entry) (target : ChannelKey) (keys : List String) (m : Message)
    (s : Strategy) : Prop where
  /-- The strategy stays in force. -/
  strategy : ((addRoute target keys).apply e).strategy = e.strategy ∧
    ((removeRoute target keys).apply e).strategy = e.strategy
  /-- Adding a route takes the message from no target, -/
  kept : ∀ u ∈ s.targets m e.routes, u ∈ s.targets m ((addRoute target keys).apply e).routes
  /-- and sends it to one target more at most. -/
  gained : ∀ u ∈ s.targets m ((addRoute target keys).apply e).routes,
    u ∈ s.targets m e.routes ∨ u = target
  /-- Removing a route sends it to no other target, -/
  spared : ∀ u ∈ s.targets m ((removeRoute target keys).apply e).routes, u ∈ s.targets m e.routes
  /-- and takes it from one target at most. -/
  lost : ∀ u ∈ s.targets m e.routes,
    u ∈ s.targets m ((removeRoute target keys).apply e).routes ∨ u = target
  /-- A target whose route was removed as a whole gets no message. -/
  withdrawn : target ∉ s.targets m ((removeRoute target []).apply e).routes
  /-- One that was added without keys gets those that name no routing key. -/
  reached : m.header? "routing-key" = none →
    target ∈ s.targets m ((addRoute target []).apply e).routes
  /-- Setting the strategy leaves the routes as they are to the new one. -/
  reset : ∀ new : Option Strategy, ((setStrategy new).apply e).routes = e.routes ∧
    ((setStrategy new).apply e).targets m = new.elim .empty fun s => s.targets m e.routes

/-- **A route change affects exactly its own target**, whatever mutations made the entry, for every
message and under every strategy. -/
theorem mutations_are_local (channel : ChannelKey) (history : List Mutation) (target : ChannelKey)
    (keys : List String) (m : Message) (s : Strategy) :
    (applyAll (.empty channel) history).Local target keys m s := by
  have h := (Entry.reflects_applyAll channel history).wellFormed
  generalize applyAll (.empty channel) history = e at h
  refine
    { strategy := ⟨strategy_apply _ e, strategy_apply _ e⟩
      kept := ?_, gained := ?_, spared := ?_, lost := ?_, withdrawn := ?_, reached := ?_
      reset := ?_ }
  · intro u before
    exact (mem_targets_addRoute h target keys s m u).mpr (.inl before)
  · intro u after
    rcases (mem_targets_addRoute h target keys s m u).mp after with before | ⟨own, -⟩
    · exact .inl before
    · exact .inr own
  · intro u after
    obtain ⟨pattern, held, admitted, -⟩ := (mem_targets_removeRoute h target keys s m u).mp after
    exact (h.mem_targets s m).mpr ⟨pattern, held, admitted⟩
  · intro u before
    obtain ⟨pattern, held, admitted⟩ := (h.mem_targets s m).mp before
    by_cases own : u = target
    · exact .inr own
    · refine .inl ((mem_targets_removeRoute h target keys s m u).mpr ⟨pattern, held, admitted, ?_⟩)
      rintro ⟨same, -⟩
      exact own same
  · intro after
    obtain ⟨pattern, -, -, stays⟩ := (mem_targets_removeRoute h target [] s m target).mp after
    exact stays ⟨rfl, .inl rfl⟩
  · intro unnamed
    have key : m.routingKey = defaultRoutingKey := congrArg (·.getD defaultRoutingKey) unnamed
    refine (mem_targets_addRoute h target [] s m target).mpr (.inr ⟨rfl, ?_⟩)
    refine ⟨defaultRoutingKey, List.mem_singleton_self _, ?_⟩
    rw [key]
    exact s.admits_default
  · intro new
    refine ⟨rfl, ?_⟩
    cases new <;> rfl

end ChannelRouting
