import ChannelRouting.Proofs.Loop.Counters
import ChannelRouting.Proofs.Service.Setup
import ChannelRouting.Proofs.Loop.Serving
import Mathlib.Data.List.Forall2
import Mathlib.Data.List.Perm.Basic

/-!
# What a one-shot run counts

`Config.tally` reads off a configuration what loops that route some of its messages to begin
with have to count: each target of a message that is a source refuses it, since the sources are
closed, and each of the others takes it. Messages that are routed in this way (`Routes`) are
counted so (`rounds_eq_tally`).

Each message is for one source, so the messages of all the sources are those of the
configuration in another order (`Config.perm_shares`).
-/

namespace ChannelRouting

open Loop (Attempt Round)

/-! ## What a configuration leads to -/

namespace Config

variable {c : Config} {id : Nat → Uuid}

/-- The targets of a message that are closed, since they are sources. -/
def refusing (c : Config) (s : SeedMessage) : List ChannelKey :=
  (c.targetsFor s).toList.filter fun t => t.name ∈ c.sources

/-- The targets of a message that take it. -/
def accepting (c : Config) (s : SeedMessage) : List ChannelKey :=
  (c.targetsFor s).toList.filter fun t => t.name ∉ c.sources

/-- What is noted of the targets that refuse a message. -/
def refusals (c : Config) (id : Nat → Uuid) (x : SeedMessage × Nat) : List SendFailure :=
  (c.refusing x.1).map fun t => { target := t, messageId := id x.2, error := .closed t }

/-- **The counters of loops that route some of the messages.** -/
def tally (c : Config) (id : Nat → Uuid) (work : List (SeedMessage × Nat)) : LoopStats where
  received := work.length
  forwarded := (work.map fun x => (c.accepting x.1).length).sum
  dropped := work.countP fun x => (c.targetsFor x.1).isEmpty
  sendErrors := work.flatMap (c.refusals id)

/-- How many messages arrive at a target. -/
def delivered (c : Config) (t : ChannelKey) : Nat :=
  if t.name ∈ c.sources then 0 else c.seeds.countP fun s => t ∈ c.targetsFor s

/-- The messages for a source, numbered as they are in the configuration. -/
def share (c : Config) (source : ChannelKey) : List (SeedMessage × Nat) :=
  c.seeds.zipIdx.filter fun x => ChannelKey.mk x.1.source = source

/-- How the attempts at the targets of a message go. -/
def tries (c : Config) (s : SeedMessage) : List Attempt :=
  (c.targetsFor s).toList.map fun t =>
    if t.name ∈ c.sources then .refused t (.closed t) else .delivered t

/-- **A round that routes a message as the configuration says.** -/
structure Routes (c : Config) (id : Nat → Uuid) (x : SeedMessage × Nat) (r : Round) : Prop where
  message : r.message = Service.seedMessage (id x.2) x.1
  attempts : r.attempts = c.tries x.1

end Config

theorem Service.seedMessage_id (id : Uuid) (s : SeedMessage) : (seedMessage id s).id = id := by
  unfold seedMessage
  cases s.routingKey <;> rfl

/-! ## Counting rounds -/

namespace Config

variable {c : Config} {id : Nat → Uuid} {x : SeedMessage × Nat} {r : Round}

theorem Routes.succeeded (h : c.Routes id x r) :
    r.attempts.countP Attempt.succeeded = (c.accepting x.1).length := by
  rw [h.attempts, tries, accepting, List.countP_map, ← List.countP_eq_length_filter]
  refine List.countP_congr fun t _ => ?_
  simp only [Function.comp_apply, decide_eq_true_eq]
  split
  · next closed => exact ⟨nofun, fun h => absurd closed h⟩
  · next opened => exact ⟨fun _ => opened, fun _ => rfl⟩

theorem Routes.failures (h : c.Routes id x r) : LoopStats.failures r = c.refusals id x := by
  rw [LoopStats.failures, h.attempts, h.message, tries, refusals, refusing]
  induction (c.targetsFor x.1).toList with
  | nil => rfl
  | cons t rest ih =>
    rw [List.map_cons, List.filter_cons]
    simp only [decide_eq_true_eq]
    split
    · simp only [List.filterMap_cons, Attempt.failure?, Service.seedMessage_id, List.map_cons, ih]
    · simp only [List.filterMap_cons, Attempt.failure?, ih]

theorem Routes.routed (h : c.Routes id x r) :
    LoopStats.routed r = !(c.targetsFor x.1).isEmpty := by
  rw [LoopStats.routed_eq, h.attempts, tries, List.isEmpty_map]
  rfl

/-- **Rounds that route some messages as the configuration says are counted as it says.** -/
theorem rounds_eq_tally {work : List (SeedMessage × Nat)} {rounds : List Round}
    (h : List.Forall₂ (c.Routes id) work rounds) : ({} : LoopStats).rounds rounds = c.tally id work := by
  rw [LoopStats.rounds_eq]
  induction h with
  | nil => rfl
  | @cons x r work rounds first _ ih =>
    simp only [tally, LoopStats.mk.injEq, Nat.zero_add, List.nil_append] at ih ⊢
    obtain ⟨received, forwarded, dropped, sendErrors⟩ := ih
    refine ⟨congrArg Nat.succ received, ?_, ?_, ?_⟩
    · rw [List.flatMap_cons, List.countP_append, first.succeeded, forwarded, List.map_cons,
        List.sum_cons]
    · rw [List.countP_cons, List.countP_cons, dropped, first.routed, Bool.not_not]
    · rw [List.flatMap_cons, List.flatMap_cons, first.failures, sendErrors]

/-- A target that is no source takes the messages whose target it is. -/
theorem Routes.delivers (h : c.Routes id x r) {t : ChannelKey} (opened : t.name ∉ c.sources) :
    r.delivers t = decide (t ∈ c.targetsFor x.1) := by
  rw [Round.delivers, h.attempts, tries, List.any_map, Bool.eq_iff_iff, List.any_eq_true,
    decide_eq_true_eq]
  constructor
  · rintro ⟨k, hk, reached⟩
    simp only [Function.comp_apply] at reached
    split at reached
    · cases reached
    · exact of_decide_eq_true reached ▸ hk
  · intro ht
    refine ⟨t, ht, ?_⟩
    simp only [Function.comp_apply, if_neg opened]
    exact decide_eq_true rfl

theorem length_delivered {work : List (SeedMessage × Nat)} {rounds : List Round}
    (h : List.Forall₂ (c.Routes id) work rounds) {t : ChannelKey} (opened : t.name ∉ c.sources) :
    ((rounds.filter (Round.delivers t)).map Round.message).length =
      work.countP fun x => t ∈ c.targetsFor x.1 := by
  rw [List.length_map, ← List.countP_eq_length_filter]
  induction h with
  | nil => rfl
  | @cons x r work rounds first _ ih => rw [List.countP_cons, List.countP_cons, ih, first.delivers opened]

end Config

/-! ## Lists by key -/

/-- A list without its numbers. -/
theorem map_zipIdx {α β : Type} (l : List α) (f : α → β) : (l.zipIdx.map fun x => f x.1) = l.map f := by
  have plain := congrArg (List.map f) (List.zipIdx_map_fst 0 l)
  rwa [List.map_map] at plain

theorem countP_zipIdx {α : Type} (l : List α) (p : α → Bool) :
    (l.zipIdx.countP fun x => p x.1) = l.countP p := by
  have plain := congrArg (List.countP p) (List.zipIdx_map_fst 0 l)
  rwa [List.countP_map] at plain

/-- If the keys are different and none is missing, the elements by key are all elements. -/
theorem perm_fibers {α κ : Type} [DecidableEq κ] (key : α → κ) {keys : List κ} (once : keys.Nodup)
    {l : List α} (covered : ∀ a ∈ l, key a ∈ keys) :
    (keys.flatMap fun k => l.filter fun a => key a = k).Perm l := by
  induction keys generalizing l with
  | nil =>
    rw [List.eq_nil_iff_forall_not_mem.mpr fun a ha => List.not_mem_nil (covered a ha)]
    exact .nil
  | cons k rest ih =>
    obtain ⟨fresh, once⟩ := List.nodup_cons.mp once
    -- The other keys share out the elements that `k` leaves.
    have others : (rest.flatMap fun k' => l.filter fun a => key a = k') =
        rest.flatMap fun k' => (l.filter fun a => !decide (key a = k)).filter fun a => key a = k' := by
      refine List.flatMap_congr fun k' hk' => ?_
      rw [List.filter_filter]
      refine List.filter_congr fun a _ => ?_
      by_cases same : key a = k'
      · have other : key a ≠ k := fun h => fresh (h ▸ same ▸ hk')
        rw [decide_eq_true same, decide_eq_false other]
        rfl
      · rw [decide_eq_false same, Bool.false_and]
    have left := ih once (l := l.filter fun a => !decide (key a = k)) fun a ha => by
      obtain ⟨ha, other⟩ := List.mem_filter.mp ha
      refine (List.mem_cons.mp (covered a ha)).resolve_left fun same => ?_
      rw [decide_eq_true same] at other
      cases other
    rw [List.flatMap_cons, others]
    exact (left.append_left _).trans (List.filter_append_perm _ l)

/-! ## The messages of all sources -/

namespace Config

variable {c : Config} {id : Nat → Uuid}

/-- **Every message is for one of the sources.** -/
theorem perm_shares (sound : c.Sound) :
    (c.routers.flatMap fun r => c.share ⟨r.source⟩).Perm c.seeds.zipIdx := by
  have once : (c.sources.map ChannelKey.mk).Nodup :=
    sound.distinct.map fun _ _ => congrArg ChannelKey.name
  have known : ∀ x ∈ c.seeds.zipIdx, ChannelKey.mk x.1.source ∈ c.sources.map ChannelKey.mk :=
    fun x hx => List.mem_map_of_mem (sound.known x.1 (List.fst_mem_of_mem_zipIdx hx))
  have all := perm_fibers (fun x : SeedMessage × Nat => ChannelKey.mk x.1.source) once known
  rwa [sources, List.map_map, List.flatMap_map] at all

/-- **What the counters of all loops come to.** -/
structure Counts (c : Config) (id : Nat → Uuid) (total : LoopStats) : Prop where
  received : total.received = c.seeds.length
  dropped : total.dropped = c.seeds.countP fun s => (c.targetsFor s).isEmpty
  forwarded : total.forwarded = (c.seeds.map fun s => (c.accepting s).length).sum
  sendFailures : total.sendErrors.length = (c.seeds.map fun s => (c.refusing s).length).sum
  /-- A failure is that of a source, which is closed. -/
  closed : ∀ f ∈ total.sendErrors, f.target.name ∈ c.sources ∧ f.error = .closed f.target
  /-- Each message fails for each of its targets that is a source, once. -/
  refused : total.sendErrors.Perm (c.seeds.zipIdx.flatMap (c.refusals id))

theorem length_refusals (x : SeedMessage × Nat) :
    (c.refusals id x).length = (c.refusing x.1).length := List.length_map _

/-- **All messages in any order** are counted as the configuration says. -/
theorem counts_of_perm {work : List (SeedMessage × Nat)} (all : work.Perm c.seeds.zipIdx) :
    c.Counts id (c.tally id work) where
  received := all.length_eq.trans List.length_zipIdx
  dropped := by
    show work.countP _ = _
    rw [all.countP_eq, countP_zipIdx c.seeds fun s => (c.targetsFor s).isEmpty]
  forwarded := by
    show (work.map _).sum = _
    rw [(all.map _).sum_nat, map_zipIdx c.seeds fun s => (c.accepting s).length]
  sendFailures := by
    show (work.flatMap _).length = _
    rw [(all.flatMap_right _).length_eq, List.length_flatMap]
    simp only [length_refusals]
    rw [map_zipIdx c.seeds fun s => (c.refusing s).length]
  closed f hf := by
    obtain ⟨x, -, hf⟩ := List.mem_flatMap.mp hf
    obtain ⟨t, ht, rfl⟩ := List.mem_map.mp hf
    exact ⟨of_decide_eq_true (List.mem_filter.mp ht).2, rfl⟩
  refused := all.flatMap_right _

end Config

end ChannelRouting
