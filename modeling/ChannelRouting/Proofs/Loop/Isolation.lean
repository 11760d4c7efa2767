import ChannelRouting.Proofs.Loop.Counters
import ChannelRouting.Proofs.Loop.Delivery
import ChannelRouting.Proofs.Loop.Trial

/-!
# A target that fails is isolated

Two calls of a loop begin in the same state, and they differ in when opening some targets and
sending to them fails. Then nothing else differs: `failing_targets_isolated` says that they
receive and drop the same messages, try the same targets in the same order, end in the same
way, and leave every other channel with the same queue.

The two calls do not go in step, since a target that cannot be opened is not sent to. But each
is a course, and the courses match round by round: a turn of the loop begins with the same
answers (`Trial.Alike.turn`), an attempt at a target that does not fail goes the same way
(`Trial.Alike.attempt`), and one at a target that may fail touches that target alone
(`Trial.Beside.attempt`). The source must be out of the loop's own reach: it is closed, or none
of the messages is for it.
-/

namespace ChannelRouting.Loop

variable {τ : Type}

/-! ## Courses that match -/

/-- The attempts at targets that are not marked. -/
def unmarked (F : ChannelKey → Bool) (attempts : List Attempt) : List Attempt :=
  attempts.filter fun a => !F a.target

/-- Two rounds that differ only in how the attempts at marked targets went. -/
structure Round.Matches (F : ChannelKey → Bool) (r₁ r₂ : Round) : Prop where
  message : r₁.message = r₂.message
  entry : r₁.entry = r₂.entry
  attempts : unmarked F r₁.attempts = unmarked F r₂.attempts

/-- Two whole runs that differ only so. -/
inductive Course.Matches (F : ChannelKey → Bool) : Course → Course → Prop
  | unopened (e : TransportError) : Matches F (.unopened e) (.unopened e)
  | opened {rounds₁ rounds₂ : List Round} (ending : Ending) :
    List.Forall₂ (Round.Matches F) rounds₁ rounds₂ →
    Matches F (.opened rounds₁ ending) (.opened rounds₂ ending)

/-- The messages without a target. -/
def Course.dropped (c : Course) : List Message :=
  c.rounds.flatMap fun r => if LoopStats.routed r then [] else [r.message]

/-- What was tried, in order. -/
def Course.attempted (c : Course) : List (Message × ChannelKey) :=
  c.rounds.flatMap fun r => r.attempts.map fun a => (r.message, a.target)

namespace Round.Matches

variable {F : ChannelKey → Bool} {r₁ r₂ : Round}

theorem targets (h : Matches F r₁ r₂) :
    r₁.attempts.map Attempt.target = r₂.attempts.map Attempt.target := by
  rw [r₁.complete, r₂.complete, h.message, h.entry]

theorem routed (h : Matches F r₁ r₂) : LoopStats.routed r₁ = LoopStats.routed r₂ := by
  unfold LoopStats.routed
  rw [h.message, h.entry]

theorem attempted (h : Matches F r₁ r₂) :
    (r₁.attempts.map fun a => (r₁.message, a.target)) =
      r₂.attempts.map fun a => (r₂.message, a.target) := by
  have paired := congrArg (List.map (Prod.mk r₁.message)) h.targets
  rw [List.map_map, List.map_map] at paired
  rw [← h.message]
  exact paired

/-- The failures of a round at targets that are not marked are those of its attempts at them. -/
theorem filter_failures (F : ChannelKey → Bool) (r : Round) :
    (LoopStats.failures r).filter (fun f => !F f.target) =
      (unmarked F r.attempts).filterMap (Attempt.failure? r.message) := by
  rw [LoopStats.failures, unmarked, List.filter_filterMap, List.filterMap_filter]
  refine List.filterMap_congr fun a _ => ?_
  cases a with
  | unopened t e | refused t e =>
    cases hF : F t <;> simp only [Attempt.failure?, Attempt.target, Option.filter_some, hF,
      Bool.not_true, Bool.not_false, if_true, if_false, Bool.false_eq_true]
  | delivered t => simp only [Attempt.failure?, Option.filter_none, ite_self]

theorem failures (h : Matches F r₁ r₂) :
    (LoopStats.failures r₁).filter (fun f => !F f.target) =
      (LoopStats.failures r₂).filter fun f => !F f.target := by
  rw [filter_failures, filter_failures, h.attempts, h.message]

end Round.Matches

namespace Course.Matches

variable {F : ChannelKey → Bool} {c₁ c₂ : Course}

theorem rounds (h : Matches F c₁ c₂) : List.Forall₂ (Round.Matches F) c₁.rounds c₂.rounds := by
  cases h with
  | unopened e => exact .nil
  | opened ending rounds => exact rounds

theorem handedBack (h : Matches F c₁ c₂) : c₁.handedBack = c₂.handedBack := by
  cases h with
  | unopened e => rfl
  | opened ending rounds => cases ending <;> rfl

/-- What is the same of matching rounds is the same of the runs. -/
theorem flatMap_eq {α : Type} {f : Round → List α} (h : Matches F c₁ c₂)
    (same : ∀ r₁ r₂, Round.Matches F r₁ r₂ → f r₁ = f r₂) :
    c₁.rounds.flatMap f = c₂.rounds.flatMap f := by
  have rounds := h.rounds
  generalize c₁.rounds = rounds₁, c₂.rounds = rounds₂ at rounds ⊢
  induction rounds with
  | nil => rfl
  | cons hr _ ih => rw [List.flatMap_cons, List.flatMap_cons, same _ _ hr, ih]

theorem taken (h : Matches F c₁ c₂) : c₁.taken = c₂.taken := by
  rw [Course.taken, Course.taken, h.handedBack, List.map_eq_flatMap, List.map_eq_flatMap,
    h.flatMap_eq fun _ _ hr => by rw [hr.message]]

theorem dropped (h : Matches F c₁ c₂) : c₁.dropped = c₂.dropped :=
  h.flatMap_eq fun _ _ hr => by rw [hr.routed, hr.message]

theorem attempted (h : Matches F c₁ c₂) : c₁.attempted = c₂.attempted :=
  h.flatMap_eq fun _ _ hr => hr.attempted

/-- The failures of a run at targets that are not marked. -/
theorem failures (h : Matches F c₁ c₂) :
    (c₁.rounds.flatMap LoopStats.failures).filter (fun f => !F f.target) =
      (c₂.rounds.flatMap LoopStats.failures).filter fun f => !F f.target := by
  rw [List.filter_flatMap, List.filter_flatMap]
  exact h.flatMap_eq fun _ _ hr => hr.failures

end Course.Matches

/-! ## Attempts -/

/-- The attempt in which a target was opened and answered a send. -/
def Attempt.answered (t : ChannelKey) : Except TransportError Unit → Attempt
  | .ok () => .delivered t
  | .error e => .refused t e

theorem Attempt.deeds_answered (m : Message) (t : ChannelKey) (answer : Except TransportError Unit) :
    (answered t answer).deeds m = [.opened t (.ok ()), .sent t m answer, .released t] := by
  rcases answer with e | _ <;> rfl

/-- A target was not opened, or it answered a send. -/
theorem Attempt.unopened_or_answered {a : Attempt} {t : ChannelKey} (h : a.target = t) :
    (∃ e, a = unopened t e) ∨ ∃ answer, a = answered t answer := by
  cases a with
  | unopened _ e =>
    cases h
    exact .inl ⟨e, rfl⟩
  | refused _ e =>
    cases h
    exact .inr ⟨.error e, rfl⟩
  | delivered _ =>
    cases h
    exact .inr ⟨.ok (), rfl⟩

namespace Trial.Alike

variable {read : ChannelKey → StateM τ (Except StoreError (Option Entry))} {faults₁ faults₂ : Faults}
  {config : LoopConfig} {F : ChannelKey → Bool} {source : ChannelKey} {w₁ w₂ v₁ v₂ : Trial τ}
  (outside : ∀ k n, F k = false → faults₁ k n = faults₂ k n)

include outside

/-- **An attempt at a target that is not marked** goes the same way in both runs. -/
theorem attempt (h : Alike F source w₁ w₂) {m : Message} {a₁ a₂ : Attempt} {t : ChannelKey}
    (at₁ : a₁.target = t) (at₂ : a₂.target = t) (unmarked : F t = false)
    (h₁ : Played (.trial read faults₁) config w₁ (a₁.deeds m) v₁)
    (h₂ : Played (.trial read faults₂) config w₂ (a₂.deeds m) v₂) :
    a₁ = a₂ ∧ Alike F source v₁ v₂ := by
  rcases Attempt.unopened_or_answered at₁ with ⟨e₁, rfl⟩ | ⟨r₁, rfl⟩ <;>
    rcases Attempt.unopened_or_answered at₂ with ⟨e₂, rfl⟩ | ⟨r₂, rfl⟩
  · obtain ⟨same, alike⟩ :=
      h.opened outside unmarked (played_singleton.mp h₁) (played_singleton.mp h₂)
    cases same
    exact ⟨rfl, alike⟩
  · rw [Attempt.deeds_answered] at h₂
    obtain ⟨_, o₂, _⟩ := h₂
    cases (h.opened outside unmarked (played_singleton.mp h₁) o₂).1
  · rw [Attempt.deeds_answered] at h₁
    obtain ⟨_, o₁, _⟩ := h₁
    cases (h.opened outside unmarked o₁ (played_singleton.mp h₂)).1
  · rw [Attempt.deeds_answered] at h₁ h₂
    obtain ⟨_, o₁, _, s₁, h₁⟩ := h₁
    obtain ⟨_, o₂, _, s₂, h₂⟩ := h₂
    have opened := (h.opened outside unmarked o₁ o₂).2
    obtain ⟨same, sent⟩ := opened.sent outside unmarked s₁ s₂
    cases same
    exact ⟨rfl, sent.released (played_singleton.mp h₁) (played_singleton.mp h₂)⟩

/-- **Attempts at the targets of a message.** They go the same way but at marked targets. -/
theorem attempts (h : Alike F source w₁ w₂) {m : Message} {as₁ as₂ : List Attempt}
    (targets : as₁.map Attempt.target = as₂.map Attempt.target)
    (shielded : (w₁.transport.queue source).closed = true ∨ source ∉ as₁.map Attempt.target)
    (h₁ : Played (.trial read faults₁) config w₁ (as₁.flatMap (Attempt.deeds m)) v₁)
    (h₂ : Played (.trial read faults₂) config w₂ (as₂.flatMap (Attempt.deeds m)) v₂) :
    unmarked F as₁ = unmarked F as₂ ∧ Alike F source v₁ v₂ := by
  induction as₁ generalizing as₂ w₁ w₂ with
  | nil =>
    cases List.map_eq_nil_iff.mp targets.symm
    cases h₁
    cases h₂
    exact ⟨rfl, h⟩
  | cons a₁ rest₁ ih =>
    obtain ⟨a₂, rest₂, rfl, at₂, rest⟩ := List.map_eq_cons_iff.mp targets.symm
    rw [List.flatMap_cons] at h₁ h₂
    obtain ⟨u₁, first₁, later₁⟩ := played_append.mp h₁
    obtain ⟨u₂, first₂, later₂⟩ := played_append.mp h₂
    have onward : (u₁.transport.queue source).closed = true ∨ source ∉ rest₁.map Attempt.target :=
      shielded.imp (closed_played first₁) List.not_mem_of_not_mem_cons
    cases marked : F a₁.target with
    | true =>
      have apart : (w₁.transport.queue source).closed = true ∨ a₁.target ≠ source :=
        shielded.imp_right fun away => (List.ne_of_not_mem_cons away).symm
      have alike := h.beside marked apart (Beside.attempt a₁ first₁) (at₂ ▸ Beside.attempt a₂ first₂)
      obtain ⟨same, alike⟩ := ih alike rest.symm onward later₁ later₂
      refine ⟨?_, alike⟩
      unfold unmarked
      rw [List.filter_cons_of_neg (by rw [marked]; decide),
        List.filter_cons_of_neg (by rw [at₂, marked]; decide)]
      exact same
    | false =>
      obtain ⟨rfl, alike⟩ := h.attempt outside rfl at₂ marked first₁ first₂
      obtain ⟨same, alike⟩ := ih alike rest.symm onward later₁ later₂
      refine ⟨?_, alike⟩
      unfold unmarked
      rw [List.filter_cons_of_pos (by rw [marked]; decide),
        List.filter_cons_of_pos (by rw [marked]; decide)]
      exact congrArg (a₁ :: ·) same

end Trial.Alike

/-! ## Turns of the loop -/

/-- **How a turn of a loop begins**: a receive brings no message, or one with which the entry is
read. -/
inductive Turn where
  | idle
  | failed (e : TransportError)
  | taken (m : Message) (read : Except StoreError (Option Entry))

namespace Turn

def received : Turn → Except TransportError (Option Message)
  | idle => .ok none
  | failed e => .error e
  | taken m _ => .ok (some m)

def reads (source : ChannelKey) : Turn → List Deed
  | idle | failed _ => []
  | taken _ read => [.read source read]

def deeds (source : ChannelKey) (turn : Turn) : List Deed :=
  .received source turn.received :: turn.reads source

end Turn

/-- The turn in which a message is routed. -/
def Round.turn (r : Round) : Turn := .taken r.message (.ok (some r.entry))

/-- The turn with which a run ends. -/
def Ending.turn : Ending → Turn
  | drained => .idle
  | failed e => .failed e
  | absent m => .taken m (.ok none)
  | unreadable m e => .taken m (.error e)

theorem Ending.deeds_eq (source : ChannelKey) (e : Ending) :
    e.deeds source = e.turn.deeds source ++ [.released source] := by
  cases e <;> rfl

theorem Round.deeds_eq (source : ChannelKey) (r : Round) :
    r.deeds source = r.turn.deeds source ++ r.attempts.flatMap (Attempt.deeds r.message) := rfl

theorem Ending.turn_inj {e e' : Ending} (h : e.turn = e'.turn) : e = e' := by
  cases e <;> cases e' <;> cases h <;> rfl

/-- A run does not end in a turn in which a message is routed. -/
theorem Ending.turn_ne (e : Ending) (r : Round) : e.turn ≠ r.turn := by
  intro h
  cases e <;> cases h

theorem Trial.Alike.turn {read : ChannelKey → StateM τ (Except StoreError (Option Entry))}
    {faults₁ faults₂ : Faults} {config : LoopConfig} {F : ChannelKey → Bool} {source : ChannelKey}
    {w₁ w₂ v₁ v₂ : Trial τ} (h : Alike F source w₁ w₂) {turn₁ turn₂ : Turn}
    (h₁ : Played (.trial read faults₁) config w₁ (turn₁.deeds source) v₁)
    (h₂ : Played (.trial read faults₂) config w₂ (turn₂.deeds source) v₂) :
    turn₁ = turn₂ ∧ Alike F source v₁ v₂ := by
  obtain ⟨u₁, received₁, reads₁⟩ := h₁
  obtain ⟨u₂, received₂, reads₂⟩ := h₂
  obtain ⟨same, alike⟩ := h.received received₁ received₂
  cases turn₁ <;> cases turn₂ <;> cases same
  case idle.idle | failed.failed =>
    cases reads₁
    cases reads₂
    exact ⟨rfl, alike⟩
  case taken.taken =>
    obtain ⟨same, alike⟩ := alike.readEntry (played_singleton.mp reads₁) (played_singleton.mp reads₂)
    cases same
    exact ⟨rfl, alike⟩

/-! ## Whole runs -/

namespace Trial.Alike

variable {read : ChannelKey → StateM τ (Except StoreError (Option Entry))} {faults₁ faults₂ : Faults}
  {config : LoopConfig} {F : ChannelKey → Bool} {source : ChannelKey} {w w₁ w₂ v₁ v₂ : Trial τ}
  (outside : ∀ k n, F k = false → faults₁ k n = faults₂ k n)

include outside

/-- **A round**: it matches. -/
theorem round (h : Alike F source w₁ w₂) {r₁ r₂ : Round}
    (shielded : (w₁.transport.queue source).closed = true ∨
      source ∉ r₁.attempts.map Attempt.target)
    (h₁ : Played (.trial read faults₁) config w₁ (r₁.deeds source) v₁)
    (h₂ : Played (.trial read faults₂) config w₂ (r₂.deeds source) v₂) :
    Round.Matches F r₁ r₂ ∧ Alike F source v₁ v₂ := by
  rw [Round.deeds_eq] at h₁ h₂
  obtain ⟨u₁, turn₁, tried₁⟩ := played_append.mp h₁
  obtain ⟨u₂, turn₂, tried₂⟩ := played_append.mp h₂
  obtain ⟨same, alike⟩ := h.turn turn₁ turn₂
  obtain ⟨message, read⟩ := Turn.taken.inj same
  have entry : r₁.entry = r₂.entry := Option.some.inj (Except.ok.inj read)
  have targets : r₁.attempts.map Attempt.target = r₂.attempts.map Attempt.target := by
    rw [r₁.complete, r₂.complete, message, entry]
  rw [← message] at tried₂
  obtain ⟨attempts, alike⟩ := alike.attempts outside targets
    (shielded.imp_left (closed_played turn₁)) tried₁ tried₂
  exact ⟨⟨message, entry, attempts⟩, alike⟩

/-- **Rounds and the end of a run**: they match. -/
theorem rounds (h : Alike F source w₁ w₂) {rs₁ rs₂ : List Round} {e₁ e₂ : Ending}
    (shielded : (w₁.transport.queue source).closed = true ∨
      ∀ r ∈ rs₁, source ∉ r.attempts.map Attempt.target)
    (h₁ : Played (.trial read faults₁) config w₁
      (rs₁.flatMap (Round.deeds source) ++ e₁.deeds source) v₁)
    (h₂ : Played (.trial read faults₂) config w₂
      (rs₂.flatMap (Round.deeds source) ++ e₂.deeds source) v₂) :
    List.Forall₂ (Round.Matches F) rs₁ rs₂ ∧ e₁ = e₂ ∧ Alike F source v₁ v₂ := by
  induction rs₁ generalizing rs₂ w₁ w₂ with
  | nil =>
    rw [List.flatMap_nil, List.nil_append, Ending.deeds_eq] at h₁
    obtain ⟨u₁, turn₁, later₁⟩ := played_append.mp h₁
    cases rs₂ with
    | nil =>
      rw [List.flatMap_nil, List.nil_append, Ending.deeds_eq] at h₂
      obtain ⟨u₂, turn₂, later₂⟩ := played_append.mp h₂
      obtain ⟨same, alike⟩ := h.turn turn₁ turn₂
      exact ⟨.nil, Ending.turn_inj same,
        alike.released (played_singleton.mp later₁) (played_singleton.mp later₂)⟩
    | cons r₂ rest₂ =>
      rw [List.flatMap_cons, Round.deeds_eq, List.append_assoc, List.append_assoc] at h₂
      obtain ⟨u₂, turn₂, -⟩ := played_append.mp h₂
      exact absurd (h.turn turn₁ turn₂).1 (Ending.turn_ne e₁ r₂)
  | cons r₁ rest₁ ih =>
    rw [List.flatMap_cons, List.append_assoc] at h₁
    obtain ⟨u₁, round₁, later₁⟩ := played_append.mp h₁
    cases rs₂ with
    | nil =>
      rw [List.flatMap_nil, List.nil_append, Ending.deeds_eq] at h₂
      obtain ⟨u₂, turn₂, -⟩ := played_append.mp h₂
      rw [Round.deeds_eq] at round₁
      obtain ⟨v, turn₁, -⟩ := played_append.mp round₁
      exact absurd (h.turn turn₁ turn₂).1.symm (Ending.turn_ne e₂ r₁)
    | cons r₂ rest₂ =>
      rw [List.flatMap_cons, List.append_assoc] at h₂
      obtain ⟨u₂, round₂, later₂⟩ := played_append.mp h₂
      obtain ⟨first, alike⟩ :=
        h.round outside (shielded.imp_right fun away => away r₁ List.mem_cons_self) round₁ round₂
      have onward : (u₁.transport.queue source).closed = true ∨
          ∀ r ∈ rest₁, source ∉ r.attempts.map Attempt.target :=
        shielded.imp (closed_played round₁) fun away r hr => away r (List.mem_cons_of_mem r₁ hr)
      obtain ⟨rest, ending, alike⟩ := ih alike onward later₁ later₂
      exact ⟨.cons first rest, ending, alike⟩

/-- **A whole run.** Opening the source goes the same way, if it fails in both or in neither. -/
theorem course {c₁ c₂ : Course}
    (opens : faults₁ source (w.calls source) = faults₂ source (w.calls source))
    (shielded : (w.transport.queue source).closed = true ∨
      ∀ r ∈ c₁.rounds, source ∉ r.attempts.map Attempt.target)
    (h₁ : Played (.trial read faults₁) config w (c₁.deeds source) v₁)
    (h₂ : Played (.trial read faults₂) config w (c₂.deeds source) v₂) :
    Course.Matches F c₁ c₂ ∧ Alike F source v₁ v₂ := by
  have opening : (Access.trial read faults₁).openChannel source w =
      (Access.trial read faults₂).openChannel source w := by
    simp only [Access.trial, opens]
  cases c₁ with
  | unopened e₁ =>
    have o₁ := played_singleton.mp h₁
    cases c₂ with
    | unopened e₂ =>
      have o₂ := played_singleton.mp h₂
      cases o₁.symm.trans (opening.trans o₂)
      exact ⟨.unopened e₁, .refl F source v₁⟩
    | opened rounds₂ ending₂ =>
      obtain ⟨_, o₂, -⟩ := h₂
      cases o₁.symm.trans (opening.trans o₂)
  | opened rounds₁ ending₁ =>
    obtain ⟨u, o₁, later₁⟩ := h₁
    cases c₂ with
    | unopened e₂ =>
      have o₂ := played_singleton.mp h₂
      cases o₁.symm.trans (opening.trans o₂)
    | opened rounds₂ ending₂ =>
      obtain ⟨_, o₂, later₂⟩ := h₂
      cases o₁.symm.trans (opening.trans o₂)
      obtain ⟨rounds, rfl, alike⟩ := (Alike.refl F source u).rounds outside
        (shielded.imp_left fun closed => closed_happens o₁ closed) later₁ later₂
      exact ⟨.opened ending₁ rounds, alike⟩

end Trial.Alike

/-! ## Two calls -/

/-- **What two calls have in common** that differ only in when opening the channels marked by `F`
and sending to them fails. -/
structure Isolated (F : ChannelKey → Bool) (source : ChannelKey) (call₁ call₂ : Returned (Trial τ))
    (c₁ c₂ : Course) : Prop where
  /-- The calls are the courses. -/
  deeds₁ : call₁.deeds = c₁.deeds source
  deeds₂ : call₂.deeds = c₂.deeds source
  received : receipts source call₁.deeds = receipts source call₂.deeds
  dropped : c₁.dropped = c₂.dropped
  /-- The same targets are tried for the same messages, in the same order. -/
  attempted : c₁.attempted = c₂.attempted
  /-- Both end well, or both with the same error. -/
  ended : call₁.outcome.map (fun _ => ()) = call₂.outcome.map (fun _ => ())
  queues : ∀ k, F k = false → call₁.after.transport.queue k = call₂.after.transport.queue k
  sendErrors : call₁.left.stats.sendErrors.filter (fun f => !F f.target) =
    call₂.left.stats.sendErrors.filter fun f => !F f.target

/-- Runs that match report the same, up to what their loops have counted. -/
theorem Course.Matches.ended {F : ChannelKey → Bool} {c₁ c₂ : Course} (h : Matches F c₁ c₂)
    (source : ChannelKey) (s : LoopStats) :
    (c₁.outcome source s).map (fun _ => ()) = (c₂.outcome source s).map fun _ => () := by
  cases h with
  | unopened e => rfl
  | opened ending rounds => cases ending <;> rfl

/-- **A target that fails is isolated from all others.** -/
theorem failing_targets_isolated {read : ChannelKey → StateM τ (Except StoreError (Option Entry))}
    {faults₁ faults₂ : Faults} {F : ChannelKey → Bool} {l : Loop} {thread₁ thread₂ : String}
    {w w₁ w₂ : Trial τ} {r₁ r₂ : Run} {deeds₁ deeds₂ : List Deed}
    {outcome₁ outcome₂ : Except LoopError LoopStats}
    (outside : ∀ k n, F k = false → faults₁ k n = faults₂ k n)
    (opens : faults₁ l.source (w.calls l.source) = faults₂ l.source (w.calls l.source))
    (shielded : (w.transport.queue l.source).closed = true ∨ Outward l.source deeds₁)
    (run₁ : Driven (.trial read faults₁) (fun _ _ => False) (l.start thread₁) w r₁ w₁ deeds₁)
    (out₁ : r₁.outcome? = some outcome₁)
    (run₂ : Driven (.trial read faults₂) (fun _ _ => False) (l.start thread₂) w r₂ w₂ deeds₂)
    (out₂ : r₂.outcome? = some outcome₂) :
    ∃ c₁ c₂, Isolated F l.source ⟨l, w, deeds₁, outcome₁, w₁, r₁.loop⟩
      ⟨l, w, deeds₂, outcome₂, w₂, r₂.loop⟩ c₁ c₂ := by
  obtain ⟨trail₁, played₁⟩ := run₁.played (Trial.steady_trial read faults₁)
  obtain ⟨trail₂, played₂⟩ := run₂.played (Trial.steady_trial read faults₂)
  obtain ⟨c₁, left₁, rfl, rfl⟩ := trail₁.ended out₁
  obtain ⟨c₂, left₂, rfl, rfl⟩ := trail₂.ended out₂
  obtain ⟨matching, alike⟩ := Trial.Alike.course outside opens
    (shielded.imp_right fun outward _ hr => outward.not_tried hr) played₁ played₂
  refine ⟨c₁, c₂, rfl, rfl, ?_, matching.dropped, matching.attempted, matching.ended l.source l.stats,
    fun k hk => alike.transport.queue k (.inl hk), ?_⟩
  · rw [receipts_course, receipts_course]
    exact matching.taken
  · rw [left₁, left₂]
    show (l.stats.course c₁).sendErrors.filter _ = (l.stats.course c₂).sendErrors.filter _
    rw [LoopStats.course_eq, LoopStats.course_eq, List.filter_append, List.filter_append,
      matching.failures]

/-- A closed source with two messages, each for two targets and for the source itself. -/
def rehearsal : Trial Store :=
  let route (name : String) : Route := { target := ⟨name⟩, keys := .ofList ["k"] }
  let queued : Queue := { messages := [.new (.ofNat 1) [], .new (.ofNat 2) []] }
  { store := .memory (Table.putIfAbsent .empty
      { channel := ⟨"s"⟩, strategy := some .fanout, routes := [route "a", route "b", route "s"] }).2
    transport := (Transport.withQueue {} ⟨"s"⟩ queued).close ⟨"s"⟩ }

/-- It cannot be opened the first time, and the second time it refuses to be sent to. -/
def shaky : Faults := fun key n =>
  if key = ⟨"b"⟩ ∧ (n = 0 ∨ n = 2) then some (.io "unreachable") else none

/-- A whole call under some faults. It is not to be unfolded where terms are compared: that would
run it. -/
@[irreducible] def rehearse (faults : Faults) : Run × Trial Store × List Deed :=
  Run.advance (Access.trial (fun key s => s.get key) faults).traced 40
    (fanOutLoop.start "worker") (rehearsal, [])

/-- The target misses both messages, and the other one gets them. -/
theorem failing_targets_isolated_shaky :
    ((rehearse fun _ _ => none).1.loop.stats.forwarded = 4 ∧
      (rehearse shaky).1.loop.stats.forwarded = 2 ∧
      ((rehearse shaky).2.1.transport.messages ⟨"a"⟩).length = 2 ∧
      ((rehearse shaky).2.1.transport.messages ⟨"b"⟩).length = 0) ∧
    ∃ outcome₁ outcome₂ c₁ c₂, Isolated (fun k => k = ⟨"b"⟩) ⟨"s"⟩
      ⟨fanOutLoop, rehearsal, (rehearse fun _ _ => none).2.2, outcome₁,
        (rehearse fun _ _ => none).2.1, (rehearse fun _ _ => none).1.loop⟩
      ⟨fanOutLoop, rehearsal, (rehearse shaky).2.2, outcome₂, (rehearse shaky).2.1,
        (rehearse shaky).1.loop⟩ c₁ c₂ := by
  have returned₁ : (rehearse fun _ _ => none).1.outcome?.isSome = true := by decide +kernel
  have returned₂ : (rehearse shaky).1.outcome?.isSome = true := by decide +kernel
  obtain ⟨outcome₁, out₁⟩ := Option.isSome_iff_exists.mp returned₁
  obtain ⟨outcome₂, out₂⟩ := Option.isSome_iff_exists.mp returned₂
  have run (faults : Faults) : Driven (.trial (fun key s => s.get key) faults) (fun _ _ => False)
      (fanOutLoop.start "worker") rehearsal (rehearse faults).1 (rehearse faults).2.1
      (rehearse faults).2.2 := by
    unfold rehearse
    exact Driven.advance .start 40
  have outside (k : ChannelKey) (n : Nat) (hk : decide (k = ⟨"b"⟩) = false) : none = shaky k n :=
    (if_neg fun h => of_decide_eq_false hk h.1).symm
  exact ⟨by decide +kernel, outcome₁, outcome₂, failing_targets_isolated outside rfl
    (.inl (by decide +kernel)) (run _) out₁ (run shaky) out₂⟩

end ChannelRouting.Loop
