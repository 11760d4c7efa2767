import ChannelRouting.Proofs.Loop.Course
import Mathlib.Algebra.GroupWithZero.Nat

/-!
# What the counters of a loop say

A loop keeps its counters over all its runs. Told in courses, the counters after any
number of runs are those before with four sums added: the messages taken, the attempts
that succeeded, the messages without a target, and the failures, in order
(`courses_eq`). Two balances follow: every target of every message is counted once, and
every message that was taken was routed, dropped or handed back (`Counted`).
-/

namespace ChannelRouting.LoopStats

open Loop (Attempt Round Course)

/-- The counters after whole runs. -/
def courses (s : LoopStats) (cs : List Course) : LoopStats := cs.foldl course s

/-- The failures of a round, in order. -/
def failures (r : Round) : List SendFailure := r.attempts.filterMap (Attempt.failure? r.message)

/-- Whether a message had targets. -/
def routed (r : Round) : Bool := !(r.entry.targets r.message).isEmpty

/-- **What counters say of some runs.** `s` are the counters before, `s'` those after. -/
structure Counted (s s' : LoopStats) (cs : List Course) : Prop where
  /-- Every message that was taken counts as received, those handed back too. -/
  received : s'.received = s.received + (cs.flatMap Course.taken).length
  forwarded : s'.forwarded = s.forwarded +
    ((cs.flatMap Course.rounds).flatMap Round.attempts).countP Attempt.succeeded
  dropped : s'.dropped = s.dropped + (cs.flatMap Course.rounds).countP (fun r => !routed r)
  sendErrors : s'.sendErrors = s.sendErrors ++ (cs.flatMap Course.rounds).flatMap failures
  /-- Every target of every message counts once, as reached or as failed. -/
  attempts : s'.forwarded + s'.sendErrors.length = s.forwarded + s.sendErrors.length +
    ((cs.flatMap Course.rounds).map fun r => (r.entry.targets r.message).toList.length).sum
  /-- Every message that was taken was routed, dropped or handed back. -/
  received_eq : s'.received + s.dropped = s.received + s'.dropped +
    (cs.flatMap Course.rounds).countP routed + (cs.filterMap Course.handedBack).length

theorem routed_eq (r : Round) : routed r = !r.attempts.isEmpty := by
  have same := congrArg List.isEmpty r.complete
  rw [List.isEmpty_map] at same
  simp only [routed, SortedSet.isEmpty, same]

theorem round_eq (s : LoopStats) (r : Round) :
    s.round r =
      { received := s.received + 1
        forwarded := s.forwarded + r.attempts.countP Attempt.succeeded
        dropped := s.dropped + if routed r then 0 else 1
        sendErrors := s.sendErrors ++ failures r } := by
  rw [routed_eq]
  unfold round failures
  cases r.attempts with
  | nil => simp only [take, List.countP_nil, List.filterMap_nil, List.append_nil, List.isEmpty_nil,
      Bool.not_true, Bool.false_eq_true, if_false, Nat.add_zero]
  | cons a rest => rfl

theorem rounds_eq (s : LoopStats) (rs : List Round) :
    s.rounds rs =
      { received := s.received + rs.length
        forwarded := s.forwarded + (rs.flatMap Round.attempts).countP Attempt.succeeded
        dropped := s.dropped + rs.countP (fun r => !routed r)
        sendErrors := s.sendErrors ++ rs.flatMap failures } := by
  induction rs generalizing s with
  | nil => simp only [rounds, List.foldl_nil, List.length_nil, List.flatMap_nil, List.countP_nil,
      List.append_nil, Nat.add_zero]
  | cons r rest ih =>
    show (s.round r).rounds rest = _
    rw [ih, round_eq]
    simp only [List.length_cons, List.flatMap_cons, List.countP_append, List.countP_cons,
      List.append_assoc, mk.injEq, and_true]
    refine ⟨by omega, by omega, ?_⟩
    cases routed r <;> simp only [Bool.not_true, Bool.not_false, if_true, if_false,
      Bool.false_eq_true] <;> omega

theorem course_eq (s : LoopStats) (c : Course) :
    s.course c =
      { received := s.received + c.taken.length
        forwarded := s.forwarded + (c.rounds.flatMap Round.attempts).countP Attempt.succeeded
        dropped := s.dropped + c.rounds.countP (fun r => !routed r)
        sendErrors := s.sendErrors ++ c.rounds.flatMap failures } := by
  have length : c.taken.length = c.rounds.length + if c.handedBack.isSome then 1 else 0 := by
    rw [Course.taken, List.length_append, List.length_map]
    cases c.handedBack <;> rfl
  unfold course
  by_cases hb : c.handedBack.isSome = true
  · rw [if_pos hb, rounds_eq, length, if_pos hb]
    rfl
  · rw [if_neg hb, rounds_eq, length, if_neg hb]
    rfl

theorem courses_eq (s : LoopStats) (cs : List Course) :
    s.courses cs =
      { received := s.received + (cs.flatMap Course.taken).length
        forwarded := s.forwarded +
          ((cs.flatMap Course.rounds).flatMap Round.attempts).countP Attempt.succeeded
        dropped := s.dropped + (cs.flatMap Course.rounds).countP (fun r => !routed r)
        sendErrors := s.sendErrors ++ (cs.flatMap Course.rounds).flatMap failures } := by
  induction cs generalizing s with
  | nil => simp only [courses, List.foldl_nil, List.flatMap_nil, List.length_nil, List.countP_nil,
      List.append_nil, Nat.add_zero]
  | cons c rest ih =>
    show (s.course c).courses rest = _
    rw [ih, course_eq]
    simp only [List.flatMap_cons, List.flatMap_append, List.length_append, List.countP_append,
      List.append_assoc, Nat.add_assoc]

/-- An attempt either succeeds or is noted as a failure. -/
theorem length_attempts (m : Message) (as : List Attempt) :
    as.countP Attempt.succeeded + (as.filterMap (Attempt.failure? m)).length = as.length := by
  induction as with
  | nil => rfl
  | cons a rest ih =>
    cases a with
    | unopened t e | refused t e =>
      simp only [List.countP_cons, Attempt.succeeded, List.filterMap_cons, Attempt.failure?,
        List.length_cons, Bool.false_eq_true, if_false]
      omega
    | delivered t =>
      simp only [List.countP_cons, Attempt.succeeded, List.filterMap_cons, Attempt.failure?,
        List.length_cons, if_true]
      omega

/-- Every target of every message was reached or failed. -/
theorem count_targets (rs : List Round) :
    (rs.flatMap Round.attempts).countP Attempt.succeeded + (rs.flatMap failures).length =
      (rs.map fun r => (r.entry.targets r.message).toList.length).sum := by
  induction rs with
  | nil => rfl
  | cons r rest ih =>
    have one := length_attempts r.message r.attempts
    have all := congrArg List.length r.complete
    rw [List.length_map] at all
    simp only [List.flatMap_cons, List.countP_append, List.length_append, List.map_cons,
      List.sum_cons, failures] at ih ⊢
    omega

/-- Every message that was taken was of a round or handed back. -/
theorem length_taken (cs : List Course) :
    (cs.flatMap Course.taken).length =
      (cs.flatMap Course.rounds).length + (cs.filterMap Course.handedBack).length := by
  induction cs with
  | nil => rfl
  | cons c rest ih =>
    simp only [List.flatMap_cons, List.length_append, ih, Course.taken, List.length_map]
    cases hb : c.handedBack with
    | none =>
      rw [List.filterMap_cons_none hb]
      simp only [Option.toList_none, List.length_nil]
      omega
    | some m =>
      rw [List.filterMap_cons_some hb]
      simp only [Option.toList_some, List.length_cons, List.length_nil]
      omega

theorem counted (s : LoopStats) (cs : List Course) : Counted s (s.courses cs) cs := by
  have targets := count_targets (cs.flatMap Course.rounds)
  have taken := length_taken cs
  have split := List.length_eq_countP_add_countP routed (l := cs.flatMap Course.rounds)
  rw [courses_eq]
  refine ⟨rfl, rfl, rfl, rfl, ?_, ?_⟩
  · simp only [List.length_append]
    omega
  · simp only [Bool.not_eq_true, Bool.decide_eq_false] at split ⊢
    omega

end ChannelRouting.LoopStats
