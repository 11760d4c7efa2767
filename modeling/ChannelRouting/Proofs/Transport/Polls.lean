import ChannelRouting.Proofs.Transport.Answer

/-!
# Polls and timeouts of zero

There are two policies that do not wait: the one that says so, and a timeout of zero. No other two
set the same limit to a wait (`WaitPolicy.limit_eq_iff`).

Calls with the same limit do the same to a transport, and a receive also answers the same
(`receiveAlone_of_limit_eq`). A send does not: where its wait is over, the failure is named after
the policy and not after the limit, so a channel that is full is full for the one and has timed out
for the other. That is all the difference there is (`sendAlone_retold`), and it shows exactly on a
channel that is open and full (`sendAlone_eq_iff`).
-/

namespace ChannelRouting

namespace WaitPolicy

/-- **A policy that does not wait.** -/
inductive Polls : WaitPolicy → Prop
  | immediate : Polls .immediate
  | zero : Polls (.timeout .zero)

theorem Polls.limit_eq {p : WaitPolicy} (h : p.Polls) : p.limit = some .zero := by
  cases h <;> rfl

/-- The limit tells all policies apart but the two that do not wait. -/
theorem limit_eq_iff {p q : WaitPolicy} : p.limit = q.limit ↔ p = q ∨ p.Polls ∧ q.Polls := by
  constructor
  · intro same
    cases p with
    | indefinite =>
      cases q with
      | indefinite => exact .inl rfl
      | immediate | timeout d => cases same
    | immediate =>
      cases q with
      | indefinite => cases same
      | immediate => exact .inl rfl
      | timeout d =>
        cases same
        exact .inr ⟨.immediate, .zero⟩
    | timeout d =>
      cases q with
      | indefinite => cases same
      | immediate =>
        cases same
        exact .inr ⟨.zero, .immediate⟩
      | timeout d' =>
        cases same
        exact .inl rfl
  · rintro (rfl | ⟨poll, poll'⟩)
    · rfl
    · rw [poll.limit_eq, poll'.limit_eq]

end WaitPolicy

namespace TransportError

/-- **A failure as another policy tells it**: the end of a wait under the name it has there, any
other failure as it is. -/
def retold (key : ChannelKey) (p q : WaitPolicy) (e : TransportError) : TransportError :=
  if e = ofWait key p then ofWait key q else e

theorem retold_ofWait (key : ChannelKey) (p q : WaitPolicy) :
    (ofWait key p).retold key p q = ofWait key q := if_pos rfl

theorem retold_closed (key : ChannelKey) (p q : WaitPolicy) :
    (closed key).retold key p q = closed key := by
  refine if_neg fun same => ?_
  cases p <;> cases same

/-- Of two policies with one limit, only the same names the end of a wait the same. -/
theorem ofWait_inj {key : ChannelKey} {p q : WaitPolicy} (limits : p.limit = q.limit) :
    ofWait key p = ofWait key q ↔ p = q := by
  constructor
  · intro same
    rcases WaitPolicy.limit_eq_iff.mp limits with rfl | ⟨poll, poll'⟩
    · rfl
    · cases poll <;> cases poll' <;> first | rfl | cases same
  · exact congrArg (ofWait key)

theorem retold_eq_iff {key : ChannelKey} {p q : WaitPolicy} (limits : p.limit = q.limit)
    {e : TransportError} : e.retold key p q = e ↔ p = q ∨ e ≠ ofWait key p := by
  by_cases waited : e = ofWait key p
  · rw [waited, retold_ofWait, eq_comm, ofWait_inj limits]
    simp
  · rw [retold, if_neg waited]
    simp [waited]

end TransportError

namespace Transport

variable {t : Transport} {key : ChannelKey} {p q : WaitPolicy}

/-- **A receive depends on the limit alone.** -/
theorem receiveAlone_of_limit_eq (limits : p.limit = q.limit) (t : Transport) (key : ChannelKey) :
    t.receiveAlone key p = t.receiveAlone key q := by
  unfold receiveAlone
  rw [limits, reaches_congr rfl limits]

/-- **A send does the same under the same limit**, and tells the end of its wait under the name that
the policy has for it. -/
theorem sendAlone_retold (limits : p.limit = q.limit) (t : Transport) (key : ChannelKey)
    (m : Message) :
    t.sendAlone key m q =
      ((t.sendAlone key m p).1.map (Except.mapError (.retold key p q)), (t.sendAlone key m p).2) := by
  have clock : t.reaches p = t.reaches q := reaches_congr rfl limits
  cases reached : t.reaches p with
  | false =>
    rw [sendAlone_beyond reached, sendAlone_beyond (clock.symm.trans reached)]
    rfl
  | true =>
    have reached' := clock.symm.trans reached
    cases closed : (t.queue key).closed with
    | true =>
      rw [sendAlone_closed reached closed, sendAlone_closed reached' closed]
      show _ = (some (Except.error (TransportError.retold key p q (.closed key))), t)
      rw [TransportError.retold_closed]
    | false =>
      cases room : t.hasRoom (t.messages key).length with
      | true =>
        rw [sendAlone_room reached closed room, sendAlone_room reached' closed room]
        rfl
      | false =>
        rw [sendAlone_full reached closed room, sendAlone_full reached' closed room, ← limits]
        cases p.limit with
        | none => rfl
        | some d =>
          show _ = (some (Except.error (TransportError.retold key p q (.ofWait key p))), t)
          rw [TransportError.retold_ofWait]
          rfl

/-- **A timeout of zero is told from a poll by a channel that is open and full**, and by nothing
else. -/
theorem sendAlone_eq_iff (limits : p.limit = q.limit) (t : Transport) (key : ChannelKey)
    (m : Message) :
    t.sendAlone key m p = t.sendAlone key m q ↔
      p = q ∨ (t.queue key).closed = true ∨ t.hasRoom (t.messages key).length = true := by
  rcases WaitPolicy.limit_eq_iff.mp limits with rfl | ⟨poll, poll'⟩
  · exact iff_of_true rfl (.inl rfl)
  · have reached : t.reaches p = true := t.reaches_of_limit_zero poll.limit_eq
    have reached' : t.reaches q = true := t.reaches_of_limit_zero poll'.limit_eq
    cases closed : (t.queue key).closed with
    | true =>
      rw [sendAlone_closed reached closed, sendAlone_closed reached' closed]
      simp
    | false =>
      cases room : t.hasRoom (t.messages key).length with
      | true =>
        rw [sendAlone_room reached closed room, sendAlone_room reached' closed room]
        simp
      | false =>
        rw [sendAlone_full reached closed room, sendAlone_full reached' closed room, poll.limit_eq,
          poll'.limit_eq]
        simp [TransportError.ofWait_inj limits]

end Transport

end ChannelRouting
