import ChannelRouting.Proofs.Loop.Serving
import ChannelRouting.Service
import Mathlib.Data.List.Count

/-!
# The rounds of a service

The loops of a service take turns in an order that nobody fixes: `Service.after` is the service
after any schedule. Two things are shown of all schedules.

* What has happened is told by a journal of the deeds of all loops (`Told`). All of them
  together serve the node, and each loop is on the trail of its own.
* If every loop drains a closed source of its own (`Draining`), the order cannot keep a loop
  from its end: `Service.toGo` bounds the turns it still needs, a turn of its own takes one
  of them away, and the turns of the others take none (`Draining.turns`).

The schedule that `Service.settle` follows, one loop after another, is one of these
(`Draining.settle_eq`).
-/

namespace ChannelRouting.Service

open Loop (Deed Trail)

/-- The service after the turns of a schedule, each of which names the place of a loop. -/
def after (s : Service) (schedule : List Nat) : Service := schedule.foldl step s

/-- All loops have stopped. -/
def Stopped (s : Service) : Prop := ∀ r ∈ s.runs, r.outcome?.isSome = true

theorem after_append (s : Service) (schedule later : List Nat) :
    s.after (schedule ++ later) = (s.after schedule).after later := List.foldl_append

/-! ## One turn -/

variable {s : Service} {i j : Nat} {r : Run}

/-- A turn of a place without a loop. -/
theorem step_of_none (h : s.runs[i]? = none) : s.step i = s := by
  unfold step
  rw [h]

theorem step_of_some (hr : s.runs[i]? = some r) :
    s.step i = { s with
      node := (Run.step Node.loopAccess r s.node).2
      runs := s.runs.set i ((Run.step Node.loopAccess r s.node).1.getD r) } := by
  unfold step
  rw [hr]
  rfl

theorem set_runs_self (hr : s.runs[i]? = some r) : s.runs.set i r = s.runs := by
  obtain ⟨within, rfl⟩ := List.getElem?_eq_some_iff.mp hr
  exact List.set_getElem_self within

/-- **What a turn is**: a move of the loop that has it, or nothing, since the loop waits. -/
inductive Turn (s : Service) (i : Nat) (r : Run) : List Deed → Service → Prop
  | moved {deeds : List Deed} {r' : Run} {n : Node} : r.Move deeds r' → s.node.Serves deeds n →
    Turn s i r deeds { s with node := n, runs := s.runs.set i r' }
  | waited {n : Node} : (r.step Node.loopAccess s.node).1 = none → s.node.Serves [] n →
    Turn s i r [] { s with node := n }

theorem turn_step (hr : s.runs[i]? = some r) : ∃ deeds, Turn s i r deeds (s.step i) := by
  obtain ⟨deeds, -, serves, stepped⟩ := Run.step_logs Node.law_serves r s.node []
  refine ⟨deeds, ?_⟩
  rw [step_of_some hr]
  cases ho : (Run.step Node.loopAccess r s.node).1 with
  | none =>
    rw [ho] at stepped
    cases stepped
    rw [Option.getD_none, set_runs_self hr]
    exact .waited ho serves
  | some r' =>
    rw [ho] at stepped
    exact .moved stepped serves

/-- A loop receives from its source only. -/
theorem receipts_of_move {r' : Run} {deeds : List Deed} (move : r.Move deeds r') {k : ChannelKey}
    (other : k ≠ r.loop.source) : Loop.receipts k deeds = [] := by
  cases move with
  | received m hp => exact Loop.receipts_received_of_ne other.symm (some (.ok (some m)))
  | _ => rfl

namespace Turn

variable {deeds : List Deed} {s' : Service}

theorem serves (turn : Turn s i r deeds s') : s.node.Serves deeds s'.node := by
  cases turn <;> assumption

theorem targets (turn : Turn s i r deeds s') : s'.targets = s.targets := by
  cases turn <;> rfl

theorem length (turn : Turn s i r deeds s') : s'.runs.length = s.runs.length := by
  cases turn with
  | moved move serves => exact List.length_set
  | waited stuck serves => rfl

theorem receipts (turn : Turn s i r deeds s') {k : ChannelKey} (other : k ≠ r.loop.source) :
    Loop.receipts k deeds = [] := by
  cases turn with
  | moved move serves => exact receipts_of_move move other
  | waited stuck serves => rfl

/-- The other loops stay as they are. -/
theorem others (turn : Turn s i r deeds s') (other : i ≠ j) : s'.runs[j]? = s.runs[j]? := by
  cases turn with
  | moved move serves => exact List.getElem?_set_ne other
  | waited stuck serves => rfl

/-- The loop that has the turn. -/
theorem own (turn : Turn s i r deeds s') (hr : s.runs[i]? = some r) :
    ∃ r', s'.runs[i]? = some r' ∧ r'.loop.source = r.loop.source ∧
      (r.Move deeds r' ∨ deeds = [] ∧ r' = r) := by
  cases turn with
  | moved move serves =>
    refine ⟨_, ?_, move.source_eq, .inl move⟩
    exact List.getElem?_set_self (List.getElem?_eq_some_iff.mp hr).1
  | waited stuck serves => exact ⟨r, hr, rfl, .inr ⟨rfl, rfl⟩⟩

end Turn

theorem length_step (s : Service) (i : Nat) : (s.step i).runs.length = s.runs.length := by
  cases hr : s.runs[i]? with
  | none => rw [step_of_none hr]
  | some r =>
    obtain ⟨_, turn⟩ := turn_step hr
    exact turn.length

theorem length_after (s : Service) (schedule : List Nat) :
    (s.after schedule).runs.length = s.runs.length := by
  induction schedule generalizing s with
  | nil => rfl
  | cons i rest ih => exact (ih (s.step i)).trans (length_step s i)

/-! ## The journal -/

/-- What a loop has done. -/
def deedsOf (i : Nat) (journal : List (Nat × Deed)) : List Deed :=
  (journal.filter fun x => x.1 = i).map Prod.snd

theorem deedsOf_append (i : Nat) (journal later : List (Nat × Deed)) :
    deedsOf i (journal ++ later) = deedsOf i journal ++ deedsOf i later := by
  unfold deedsOf
  rw [List.filter_append, List.map_append]

theorem deedsOf_self (i : Nat) (deeds : List Deed) : deedsOf i (deeds.map (Prod.mk i)) = deeds := by
  have all : (deeds.map (Prod.mk i)).filter (fun x => x.1 = i) = deeds.map (Prod.mk i) :=
    List.filter_eq_self.mpr fun x hx => by
      obtain ⟨d, -, rfl⟩ := List.mem_map.mp hx
      exact decide_eq_true rfl
  rw [deedsOf, all, List.map_map]
  exact List.map_id deeds

theorem deedsOf_other (other : i ≠ j) (deeds : List Deed) : deedsOf j (deeds.map (Prod.mk i)) = [] := by
  have none : (deeds.map (Prod.mk i)).filter (fun x => x.1 = j) = [] :=
    List.filter_eq_nil_iff.mpr fun x hx => by
      obtain ⟨d, -, rfl⟩ := List.mem_map.mp hx
      exact Bool.eq_false_iff.mp (decide_eq_false other)
  rw [deedsOf, none, List.map_nil]

/-- **What has happened since the start**, told by a journal. -/
structure Told (start : Service) (journal : List (Nat × Deed)) (s : Service) : Prop where
  serves : start.node.Serves (journal.map Prod.snd) s.node
  targets : s.targets = start.targets
  length : s.runs.length = start.runs.length
  /-- A loop is on the trail of its deeds. -/
  trail : ∀ i r₀ r, start.runs[i]? = some r₀ → s.runs[i]? = some r →
    Trail r₀.loop r (deedsOf i journal)
  /-- Every deed is that of a loop, which receives from its source only. -/
  own : ∀ x ∈ journal, ∃ r₀, start.runs[x.1]? = some r₀ ∧
    ∀ k, k ≠ r₀.loop.source → x.2.receipt? k = none

theorem told_start (fresh : ∀ r ∈ s.runs, r.phase = .ready) : Told s [] s where
  serves := .refl s.node
  targets := rfl
  length := rfl
  trail i r₀ r h₀ h := by
    cases h₀.symm.trans h
    show Loop.Stands r₀.loop r₀.loop [] r₀.phase
    rw [fresh r₀ (List.mem_of_getElem? h₀)]
    exact ⟨rfl, rfl⟩
  own _ := nofun

/-- **A turn goes on with the journal.** -/
theorem Told.step {start : Service} {journal : List (Nat × Deed)} (h : Told start journal s)
    (i : Nat) : ∃ later, Told start (journal ++ later) (s.step i) := by
  cases hr : s.runs[i]? with
  | none =>
    rw [step_of_none hr]
    exact ⟨[], by rwa [List.append_nil]⟩
  | some r =>
    obtain ⟨deeds, turn⟩ := turn_step hr
    obtain ⟨r', hr', -, moved⟩ := turn.own hr
    have within : i < start.runs.length := h.length ▸ (List.getElem?_eq_some_iff.mp hr).1
    obtain ⟨r₀, h₀⟩ : ∃ r₀, start.runs[i]? = some r₀ := ⟨_, List.getElem?_eq_getElem within⟩
    have trail := h.trail i r₀ r h₀ hr
    refine ⟨deeds.map (Prod.mk i), ?_, turn.targets.trans h.targets, turn.length.trans h.length,
      fun j q₀ q hq₀ hq => ?_, fun x hx => ?_⟩
    · have both := h.serves.trans turn.serves
      rwa [List.map_append, List.map_map, show deeds.map (Prod.snd ∘ Prod.mk i) = deeds from
        List.map_id deeds]
    · rw [deedsOf_append]
      by_cases other : i = j
      · subst other
        cases h₀.symm.trans hq₀
        cases hr'.symm.trans hq
        rw [deedsOf_self]
        rcases moved with move | ⟨rfl, rfl⟩
        · exact trail.move move
        · rwa [List.append_nil]
      · rw [deedsOf_other other, List.append_nil]
        exact h.trail j q₀ q hq₀ ((turn.others other).symm.trans hq)
    · rcases List.mem_append.mp hx with hx | hx
      · exact h.own x hx
      · obtain ⟨d, hd, rfl⟩ := List.mem_map.mp hx
        refine ⟨r₀, h₀, fun k other => ?_⟩
        rw [← trail.source] at other
        exact List.filterMap_eq_nil_iff.mp (turn.receipts other) d hd

theorem Told.after {start : Service} {journal : List (Nat × Deed)} (h : Told start journal s)
    (schedule : List Nat) : ∃ later, Told start (journal ++ later) (s.after schedule) := by
  induction schedule generalizing s journal with
  | nil => exact ⟨[], by rwa [List.append_nil]⟩
  | cons i rest ih =>
    obtain ⟨first, told⟩ := h.step i
    obtain ⟨later, told⟩ := ih told
    exact ⟨first ++ later, by rwa [← List.append_assoc]⟩

/-- **Every run of a service that has not begun is told by a journal.** -/
theorem told_after (fresh : ∀ r ∈ s.runs, r.phase = .ready) (schedule : List Nat) :
    ∃ journal, Told s journal (s.after schedule) := (told_start fresh).after schedule

/-- The deeds of a loop are among all deeds. -/
theorem deedsOf_subset (i : Nat) (journal : List (Nat × Deed)) :
    deedsOf i journal ⊆ journal.map Prod.snd := List.map_subset _ (List.filter_subset_self _)

/-- What is received from a source is received by its loop. -/
theorem Told.receipts_eq {start : Service} {journal : List (Nat × Deed)} (h : Told start journal s)
    {k : ChannelKey} (own : ∀ j q, start.runs[j]? = some q → q.loop.source = k → j = i) :
    Loop.receipts k (journal.map Prod.snd) = Loop.receipts k (deedsOf i journal) := by
  unfold Loop.receipts deedsOf
  rw [List.filterMap_map, List.filterMap_map, List.filterMap_filter]
  refine List.filterMap_congr fun x hx => ?_
  split
  · rfl
  · next other =>
    obtain ⟨q, hq, elsewhere⟩ := h.own x hx
    exact elsewhere k fun same => other (decide_eq_true (own x.1 q hq same.symm))

/-- Nothing is received from a channel that is nobody's source. -/
theorem Told.receipts_nil {start : Service} {journal : List (Nat × Deed)} (h : Told start journal s)
    {k : ChannelKey} (foreign : ∀ q ∈ start.runs, q.loop.source ≠ k) :
    Loop.receipts k (journal.map Prod.snd) = [] := by
  refine List.filterMap_eq_nil_iff.mpr fun d hd => ?_
  obtain ⟨x, hx, rfl⟩ := List.mem_map.mp hd
  obtain ⟨q, hq, elsewhere⟩ := h.own x hx
  exact elsewhere k fun same => foreign q (List.mem_of_getElem? hq) same.symm

/-! ## Coming to an end -/

/-- The turns that a loop still needs at most. -/
def toGo (s : Service) (r : Run) : Nat :=
  (s.node.store.entry? r.loop.source).elim 0 fun e =>
    r.phase.toGo e (s.node.transport.messages r.loop.source)

/-- **Every loop drains a closed source of its own.** -/
structure Draining (s : Service) : Prop where
  drains : ∀ r ∈ s.runs, ∃ e, Run.Drainable s.node r.loop.source e
  apart : (s.runs.map fun r => r.loop.source).Nodup

namespace Draining

/-- Different loops have different sources. -/
theorem source_ne (h : s.Draining) {q : Run} (hr : s.runs[i]? = some r) (hq : s.runs[j]? = some q)
    (other : i ≠ j) : r.loop.source ≠ q.loop.source := by
  intro same
  have hr' : (s.runs.map fun r => r.loop.source)[i]? = some q.loop.source := by
    rw [List.getElem?_map, hr, Option.map_some, same]
  have hq' : (s.runs.map fun r => r.loop.source)[j]? = some q.loop.source := by
    rw [List.getElem?_map, hq, Option.map_some]
  have within := (List.getElem?_eq_some_iff.mp hr').1
  exact other ((List.getElem?_inj within h.apart).mp (hr'.trans hq'.symm))

/-- A turn of another loop leaves a loop, its source and its entry alone. -/
theorem step_other (h : s.Draining) (hr : s.runs[i]? = some r) (other : j ≠ i) :
    (s.step j).runs[i]? = some r ∧ (s.step j).node.store = s.node.store ∧
      (s.step j).node.transport.messages r.loop.source = s.node.transport.messages r.loop.source := by
  cases hq : s.runs[j]? with
  | none =>
    rw [step_of_none hq]
    exact ⟨hr, rfl, rfl⟩
  | some q =>
    obtain ⟨deeds, turn⟩ := turn_step hq
    obtain ⟨e, drains⟩ := h.drains r (List.mem_of_getElem? hr)
    have balance := turn.serves.messages_eq drains.closed
    rw [turn.receipts (h.source_ne hr hq other.symm), List.nil_append] at balance
    exact ⟨(turn.others other).trans hr, turn.serves.store, balance.symm⟩

theorem step (h : s.Draining) (j : Nat) : (s.step j).Draining := by
  cases hq : s.runs[j]? with
  | none => rwa [step_of_none hq]
  | some q =>
    obtain ⟨deeds, turn⟩ := turn_step hq
    obtain ⟨q', hq', source, -⟩ := turn.own hq
    have sources : ((s.step j).runs.map fun r => r.loop.source) = s.runs.map fun r => r.loop.source := by
      refine List.ext_getElem? fun i => ?_
      rw [List.getElem?_map, List.getElem?_map]
      by_cases other : j = i
      · rw [← other, hq', hq, Option.map_some, Option.map_some, source]
      · rw [turn.others other]
    refine ⟨fun r hr => ?_, sources ▸ h.apart⟩
    have known : r.loop.source ∈ s.runs.map fun r => r.loop.source :=
      sources ▸ List.mem_map_of_mem hr
    obtain ⟨r₀, hr₀, same⟩ := List.mem_map.mp known
    obtain ⟨e, drains⟩ := h.drains r₀ hr₀
    exact ⟨e, same ▸ drains.serves turn.serves⟩

theorem after (h : s.Draining) (schedule : List Nat) : (s.after schedule).Draining := by
  induction schedule generalizing s with
  | nil => exact h
  | cons i rest ih => exact ih (h.step i)

/-- A loop has stopped once it needs no more turns. -/
theorem stopped_of_toGo (h : s.Draining) (hr : r ∈ s.runs) (done : s.toGo r = 0) :
    r.outcome?.isSome = true := by
  obtain ⟨e, drains⟩ := h.drains r hr
  unfold toGo at done
  rw [drains.entry] at done
  simp only [Option.elim_some] at done
  cases hp : r.phase with
  | finished outcome =>
    unfold Run.outcome?
    rw [hp]
    rfl
  | _ =>
    rw [hp, Loop.Phase.toGo] at done
    omega

/-- **A turn**: one less is to go for the loop that has it, and as much as before for the others. -/
theorem toGo_step (h : s.Draining) (hr : s.runs[i]? = some r) (j : Nat) :
    ∃ r', (s.step j).runs[i]? = some r' ∧
      (s.step j).toGo r' ≤ s.toGo r - if j = i then 1 else 0 := by
  by_cases other : j = i
  · subst other
    rw [if_pos rfl]
    obtain ⟨e, drains⟩ := h.drains r (List.mem_of_getElem? hr)
    obtain ⟨deeds, turn⟩ := turn_step hr
    generalize s.step j = s' at turn ⊢
    cases turn with
    | moved move serves =>
      refine ⟨_, List.getElem?_set_self (List.getElem?_eq_some_iff.mp hr).1, ?_⟩
      have nearer := move.toGo_lt serves drains
      unfold toGo
      rw [move.source_eq, drains.entry, (drains.serves serves).entry]
      exact Nat.le_sub_one_of_lt nearer
    | waited stuck serves =>
      refine ⟨r, hr, ?_⟩
      obtain ⟨outcome, hp⟩ := Run.finished_of_outcome (Run.ended_of_step_none drains stuck)
      unfold toGo
      rw [hp, (drains.serves serves).entry]
      exact Nat.zero_le _
  · obtain ⟨kept, store, messages⟩ := h.step_other hr other
    refine ⟨r, kept, ?_⟩
    rw [if_neg other, toGo, store, messages]
    exact Nat.le_refl _

/-- **No order keeps a loop from its end**: a schedule leaves to a loop what it needed less the
turns it got. -/
theorem turns (h : s.Draining) (hr : s.runs[i]? = some r) (schedule : List Nat) :
    ∃ r', (s.after schedule).runs[i]? = some r' ∧
      (s.after schedule).toGo r' ≤ s.toGo r - schedule.count i := by
  induction schedule generalizing s r with
  | nil => exact ⟨r, hr, Nat.le_refl _⟩
  | cons j rest ih =>
    obtain ⟨r₁, h₁, first⟩ := h.toGo_step hr j
    obtain ⟨r', hr', later⟩ := ih (h.step j) h₁
    refine ⟨r', hr', Nat.le_trans later ?_⟩
    rw [List.count_cons]
    simp only [beq_iff_eq]
    omega

/-- A schedule that gives every loop the turns it needs stops all of them. -/
theorem stopped (h : s.Draining) {schedule : List Nat}
    (enough : ∀ i r, s.runs[i]? = some r → s.toGo r ≤ schedule.count i) :
    (s.after schedule).Stopped := by
  intro r' hr'
  obtain ⟨i, within, rfl⟩ := List.getElem_of_mem hr'
  have within₀ : i < s.runs.length := length_after s schedule ▸ within
  have hr : s.runs[i]? = some s.runs[i] := List.getElem?_eq_getElem within₀
  obtain ⟨r₁, h₁, left⟩ := h.turns hr schedule
  rw [List.getElem?_eq_getElem within] at h₁
  cases h₁
  refine (h.after schedule).stopped_of_toGo hr' ?_
  have := enough i _ hr
  omega

end Draining

/-! ## One loop after another -/

/-- The patience of a service is enough for a loop that has not begun. -/
theorem toGo_le_patience (fresh : r.phase = .ready) : s.toGo r ≤ s.patience r := by
  unfold toGo patience
  cases s.node.store.entry? r.loop.source with
  | none => exact Nat.zero_le _
  | some e =>
    have bound := Loop.due_le e (s.node.transport.messages r.loop.source)
    rw [fresh]
    simp only [Option.elim_some, Loop.Phase.toGo]
    unfold Transport.messages at bound ⊢
    generalize (s.node.transport.queue r.loop.source).messages = ms at bound ⊢
    have room : ms.length * (3 + 3 * e.routes.length) ≤ (ms.length + 1) * (4 + 3 * e.routes.length) :=
      Nat.mul_le_mul (Nat.le_succ _) (Nat.add_le_add_right (Nat.le_succ 3) _)
    omega

theorem after_replicate_of_stopped (hr : s.runs[i]? = some r) (stopped : r.outcome?.isSome = true)
    (k : Nat) : s.after (List.replicate k i) = s := by
  have still : s.step i = s := by
    rw [step_of_some hr, Run.step_of_outcome stopped, Option.getD_none, set_runs_self hr]
  induction k with
  | zero => rfl
  | succ k ih =>
    show (s.step i).after (List.replicate k i) = s
    rw [still, ih]

namespace Draining

/-- A loop that runs until it waits or has stopped takes turns in a row. -/
theorem advance_eq (h : s.Draining) (hr : s.runs[i]? = some r) (fuel : Nat) :
    s.after (List.replicate fuel i) = { s with
      node := (r.advance Node.loopAccess fuel s.node).2
      runs := s.runs.set i (r.advance Node.loopAccess fuel s.node).1 } := by
  induction fuel generalizing s r with
  | zero =>
    show s = { s with node := s.node, runs := s.runs.set i r }
    rw [set_runs_self hr]
  | succ fuel ih =>
    rw [Run.advance]
    simp only [bind, StateT.bind]
    cases ho : r.step Node.loopAccess s.node with
    | mk o n =>
      cases o with
      | some r' =>
        have next := h.step i
        show (s.step i).after (List.replicate fuel i) = _
        rw [step_of_some hr, ho] at next ⊢
        rw [ih next (List.getElem?_set_self (List.getElem?_eq_some_iff.mp hr).1)]
        simp only [Option.getD_some, List.set_set]
      | none =>
        -- A loop that does not wait has stopped, and goes on doing nothing.
        obtain ⟨e, drains⟩ := h.drains r (List.mem_of_getElem? hr)
        have stopped := Run.ended_of_step_none drains (congrArg Prod.fst ho)
        cases (Run.step_of_outcome stopped s.node).symm.trans ho
        rw [after_replicate_of_stopped hr stopped]
        show s = { s with node := s.node, runs := s.runs.set i r }
        rw [set_runs_self hr]

/-- Letting a loop run that has not begun is a schedule of its own, with the turns it needs. -/
theorem exhaust_eq (h : s.Draining) (i : Nat) (fresh : ∀ r, s.runs[i]? = some r → r.phase = .ready) :
    ∃ k, s.exhaust i = s.after (List.replicate k i) ∧ ∀ r, s.runs[i]? = some r → s.toGo r ≤ k := by
  unfold exhaust
  cases hr : s.runs[i]? with
  | none =>
    refine ⟨0, rfl, fun q hq => ?_⟩
    cases hq
  | some r =>
    refine ⟨s.patience r, (h.advance_eq hr _).symm, fun q hq => ?_⟩
    cases hq
    exact toGo_le_patience (fresh r hr)

/-- What other loops do leaves to a loop what it needed. -/
theorem after_others (h : s.Draining) (hr : s.runs[i]? = some r) {schedule : List Nat}
    (others : i ∉ schedule) :
    (s.after schedule).runs[i]? = some r ∧ (s.after schedule).toGo r = s.toGo r := by
  induction schedule generalizing s with
  | nil => exact ⟨hr, rfl⟩
  | cons j rest ih =>
    obtain ⟨other, others⟩ := not_or.mp (mt List.mem_cons.mpr others)
    obtain ⟨kept, store, messages⟩ := h.step_other hr (Ne.symm other)
    obtain ⟨kept, same⟩ := ih (h.step j) kept others
    refine ⟨kept, same.trans ?_⟩
    rw [toGo, store, messages]
    rfl

/-- Letting loops that have not begun run, one after another, gives each the turns it needs. -/
theorem exhausts (h : s.Draining) {order : List Nat} (once : order.Nodup)
    (fresh : ∀ i ∈ order, ∀ r, s.runs[i]? = some r → r.phase = .ready) :
    ∃ schedule, order.foldl exhaust s = s.after schedule ∧
      ∀ i ∈ order, ∀ r, s.runs[i]? = some r → s.toGo r ≤ schedule.count i := by
  induction order generalizing s with
  | nil => exact ⟨[], rfl, nofun⟩
  | cons j rest ih =>
    obtain ⟨first, once⟩ := List.nodup_cons.mp once
    obtain ⟨k, ran, enough⟩ := h.exhaust_eq j (fresh j List.mem_cons_self)
    have others : ∀ i ∈ rest, i ∉ List.replicate k j := fun i hi again =>
      first (List.eq_of_mem_replicate again ▸ hi)
    have later := h.after (List.replicate k j)
    obtain ⟨schedule, drained, turns⟩ := ih later once fun i hi r hr => by
      have within := (List.getElem?_eq_some_iff.mp hr).1
      rw [length_after] at within
      have before := List.getElem?_eq_getElem within
      cases hr.symm.trans (h.after_others before (others i hi)).1
      exact fresh i (List.mem_cons_of_mem j hi) _ before
    refine ⟨List.replicate k j ++ schedule, ?_, fun i hi r hr => ?_⟩
    · rw [List.foldl_cons, ran, drained, after_append]
    · rw [List.count_append]
      rcases List.mem_cons.mp hi with rfl | hi
      · rw [List.count_replicate_self]
        exact Nat.le_trans (enough r hr) (Nat.le_add_right ..)
      · obtain ⟨kept, same⟩ := h.after_others hr (others i hi)
        rw [← same]
        exact Nat.le_trans (turns i hi r kept) (Nat.le_add_left ..)

/-- **Letting one loop after another run is one of the schedules, and it stops all of them.** -/
theorem settle_eq (h : s.Draining) (fresh : ∀ r ∈ s.runs, r.phase = .ready) :
    ∃ schedule, s.settle = s.after schedule ∧ (s.after schedule).Stopped := by
  obtain ⟨schedule, ran, turns⟩ := h.exhausts (List.nodup_range (n := s.runs.length))
    fun i _ r hr => fresh r (List.mem_of_getElem? hr)
  refine ⟨schedule, ran, h.stopped fun i r hr => turns i (List.mem_range.mpr ?_) r hr⟩
  exact (List.getElem?_eq_some_iff.mp hr).1

end Draining

end ChannelRouting.Service
