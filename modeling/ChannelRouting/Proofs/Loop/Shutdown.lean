import ChannelRouting.Proofs.Loop.Counters
import ChannelRouting.Proofs.Loop.Serving
import ChannelRouting.Proofs.Transport.Call

/-!
# A loop whose source is closed

A route may lead back to the source of its loop, and as long as the source is open the loop can
go on for ever on what it sends to itself. Closing the source ends that: what the loop sends to it
is refused, so every message that is received is one less (`Node.Alone.messages_eq`), while a
receive is answered to the end. So whatever the policies of the loop and the routes of its entry,
the run ends, as long as the clock reaches the end of each wait and no send waits for room that
nobody makes (`Loop.closed_source_shuts_down`). A receive whose end the clock does not reach breaks
off before it looks at the source, so such a loop drains nothing, although its source is closed
(`Run.BrokenOff.advance`). The store has to answer, too, and the counters that a run reports are
those of the loop, which go on from where they stood.

`Node.Alone` is what holds of a loop that has its node to itself. Its waits end as their policies
say, so in contrast to a loop among others it may find a channel full, and may go without a message
although its source is open.
-/

namespace ChannelRouting.Node

open Loop (Deed deliveries receipts)

/-- **What some deeds of a loop that has its node to itself do to it**, and how they were
answered. -/
structure Alone (n : Node) (deeds : List Deed) (n' : Node) : Prop extends Effect n deeds n' where
  capacity : n'.transport.capacity = n.transport.capacity
  reach : n'.transport.reach = n.transport.reach
  closed : ∀ k, (n'.transport.queue k).closed = (n.transport.queue k).closed
  opened : ∀ k e, .opened k (.error e) ∉ deeds
  received : ∀ k e, .received k (.error e) ∉ deeds
  /-- A closed channel refuses what is sent to it. -/
  refused : ∀ k m a, (n.transport.queue k).closed = true → .sent k m a ∈ deeds →
    a = .error (.closed k)
  /-- A closed channel that has no message for the loop will never have one. -/
  drained : ∀ k, (n.transport.queue k).closed = true → .received k (.ok none) ∈ deeds →
    n'.transport.messages k = []

namespace Alone

variable {n n₁ n₂ n' : Node} {deeds d₁ d₂ : List Deed} {k : ChannelKey}

/-- The messages of a closed channel only become fewer, by those that are received. -/
theorem messages_eq (h : Alone n deeds n') (closed : (n.transport.queue k).closed = true) :
    n.transport.messages k = receipts k deeds ++ n'.transport.messages k := by
  have unsent : deliveries k deeds = [] := by
    refine Loop.deliveries_eq_nil fun m hd => ?_
    cases h.refused k m _ closed hd
  have balance := h.conserves k
  simp only [unsent, List.append_nil] at balance
  exact balance

theorem trans (h₁ : Alone n d₁ n₁) (h₂ : Alone n₁ d₂ n₂) : Alone n (d₁ ++ d₂) n₂ where
  toEffect := h₁.toEffect.trans h₂.toEffect
  capacity := h₂.capacity.trans h₁.capacity
  reach := h₂.reach.trans h₁.reach
  closed k := (h₂.closed k).trans (h₁.closed k)
  opened k e h := (List.mem_append.mp h).elim (h₁.opened k e) (h₂.opened k e)
  received k e h := (List.mem_append.mp h).elim (h₁.received k e) (h₂.received k e)
  refused k m a closed h := by
    rcases List.mem_append.mp h with h | h
    · exact h₁.refused k m a closed h
    · exact h₂.refused k m a ((h₁.closed k).trans closed) h
  drained k closed h := by
    have still := (h₁.closed k).trans closed
    rcases List.mem_append.mp h with h | h
    · have later := h₂.messages_eq still
      rw [h₁.drained k closed h] at later
      exact (List.append_eq_nil_iff.mp later.symm).2
    · exact h₂.drained k still h

end Alone

/-- What a loop among others does is a case of it: such a loop is never turned away for lack of
room. -/
theorem Serves.alone {n n' : Node} {deeds : List Deed} (h : Serves n deeds n') : Alone n deeds n' where
  toEffect := h.toEffect
  capacity := h.capacity
  reach := h.reach
  closed := h.closed
  opened := h.opened
  received := h.received
  refused k m a closed hd := by
    rw [h.sent k m a hd, if_pos closed]
  drained k _ hd := (h.drained k hd).2

theorem alone_receive (n : Node) (key : ChannelKey) (wait : WaitPolicy) :
    Alone n (((n.transport.receiveAlone key wait).1.map .ok).toList.map (.received key))
      { n with transport := (n.transport.receiveAlone key wait).2 } := by
  have effect := effect_receive n key (Transport.conserves_receiveAlone n.transport key wait)
  rcases called : n.transport.receiveAlone key wait with ⟨_ | answer, t⟩
  · have same := Transport.receiveAlone_unanswered (congrArg Prod.fst called)
    rw [called] at same
    cases same
    exact (Serves.refl n).alone
  · rw [called] at effect
    have handled := Transport.handled_receiveAlone called
    refine ⟨effect, handled.capacity_eq, handled.reach_eq, fun k => ?_, fun k e h => ?_, fun k e h => ?_,
      fun k m a _ h => ?_, fun k _ h => ?_⟩
    · exact Bool.eq_iff_iff.mpr ((handled.closed_iff k).trans (or_iff_left nofun))
    all_goals cases List.mem_singleton.mp h
    cases handled with
    | nothing _ empty => exact empty

theorem alone_send (n : Node) (key : ChannelKey) (m : Message) (wait : WaitPolicy) :
    Alone n ((n.transport.sendAlone key m wait).1.toList.map (.sent key m))
      { n with transport := (n.transport.sendAlone key m wait).2 } := by
  have effect := effect_send n key m (Transport.conserves_sendAlone n.transport key m wait)
  rcases called : n.transport.sendAlone key m wait with ⟨_ | answer, t⟩
  · have same := Transport.sendAlone_unanswered (congrArg Prod.fst called)
    rw [called] at same
    cases same
    exact (Serves.refl n).alone
  · rw [called] at effect
    have handled := Transport.handled_sendAlone called
    refine ⟨effect, handled.capacity_eq, handled.reach_eq, fun k => ?_, fun k e h => ?_, fun k e h => ?_,
      fun k m a closed h => ?_, fun k _ h => ?_⟩
    · exact Bool.eq_iff_iff.mpr ((handled.closed_iff k).trans (or_iff_left nofun))
    all_goals cases List.mem_singleton.mp h
    cases handled with
    | closedOut => rfl
    | accepted _ _ opened | noRoom _ _ _ opened => cases opened.symm.trans closed

/-- **A loop that has its node to itself.** -/
theorem law_alone : soleLoopAccess.Law Alone where
  refl n := (Serves.refl n).alone
  trans := Alone.trans
  openChannel key n := (law_serves.openChannel key n).alone
  receive key wait n := alone_receive n key wait
  readEntry key n := (law_serves.readEntry key n).alone
  send key m wait n := alone_send n key m wait
  release key n := (law_serves.release key n).alone
  emit e n := (law_serves.emit e n).alone

end ChannelRouting.Node

/-! ## A run that nobody disturbs -/

namespace ChannelRouting.Run

open Loop (Access Deed Logs Trail)

section

variable {σ : Type} {p : Access σ} {r r' : Run} {w w' : σ} {deeds : List Deed}

/-- A run that has ended goes no further. -/
theorem advance_of_outcome (ended : r.outcome?.isSome = true) (fuel : Nat) (w : σ) :
    advance p fuel r w = (r, w) := by
  cases fuel with
  | zero => rfl
  | succ fuel =>
    simp only [advance, bind, StateT.bind, step_of_outcome ended]
    rfl

/-- **A run that has come to a call which never returns** has no outcome, however long it goes on. -/
theorem outcome_advance_of_waits {k : Nat} (going : (advance p k r w).1.outcome? = none)
    (waits : (step p (advance p k r w).1 (advance p k r w).2).1 = none) (fuel : Nat) :
    (advance p fuel r w).1.outcome? = none := by
  induction k generalizing r w fuel with
  | zero =>
    cases fuel with
    | zero => exact going
    | succ fuel =>
      rcases called : step p r w with ⟨_ | next, w₁⟩
      · simp only [advance, bind, StateT.bind, called]
        exact going
      · cases (congrArg Prod.fst called).symm.trans waits
  | succ k ih =>
    rcases called : step p r w with ⟨_ | next, w₁⟩
    · simp only [advance, bind, StateT.bind, called] at going
      cases fuel with
      | zero => exact going
      | succ fuel =>
        simp only [advance, bind, StateT.bind, called]
        exact going
    · simp only [advance, bind, StateT.bind, called] at going waits
      cases fuel with
      | zero =>
        -- A run that goes on has not ended.
        refine Option.eq_none_iff_forall_ne_some.mpr fun outcome ended => ?_
        cases called.symm.trans (step_of_outcome (Option.isSome_of_eq_some ended) w)
      | succ fuel =>
        simp only [advance, bind, StateT.bind, called]
        exact ih going waits fuel

/-- **A run that never waits comes to its end**, if each of its steps leaves it less to do. -/
theorem advance_ends (Going : Run → σ → Prop) (toGo : Run → σ → Nat)
    (goes : ∀ r w, Going r w → r.outcome?.isSome = true ∨
      ∃ r' w', step p r w = (some r', w') ∧ Going r' w' ∧ toGo r' w' < toGo r w)
    {fuel : Nat} (enough : toGo r w ≤ fuel) (going : Going r w) :
    ∃ r' w', r'.outcome?.isSome = true ∧
      ∀ more, fuel ≤ more → advance p more r w = (r', w') := by
  induction fuel generalizing r w with
  | zero =>
    rcases goes r w going with ended | ⟨r', w', -, -, nearer⟩
    · exact ⟨r, w, ended, fun more _ => advance_of_outcome ended more w⟩
    · omega
  | succ fuel ih =>
    rcases goes r w going with ended | ⟨r', w', stepped, going', nearer⟩
    · exact ⟨r, w, ended, fun more _ => advance_of_outcome ended more w⟩
    · obtain ⟨r'', w'', ended, same⟩ := ih (by omega) going'
      refine ⟨r'', w'', ended, fun more enough => ?_⟩
      obtain ⟨left, rfl⟩ : ∃ left, more = left + 1 := ⟨more - 1, by omega⟩
      simp only [advance, bind, StateT.bind, stepped]
      exact same left (by omega)

/-- What a run that nobody disturbs does is on the trail of it and obeys the law. -/
theorem trail_of_advance {R : σ → List Deed → σ → Prop} (law : p.Law R) {l : Loop} {fuel : Nat}
    (trail : Trail l r deeds) (went : advance p fuel r w = (r', w')) :
    ∃ new, Trail l r' (deeds ++ new) ∧ R w new w' := by
  induction fuel generalizing r w deeds with
  | zero =>
    cases went
    exact ⟨[], by rwa [List.append_nil], law.refl _⟩
  | succ fuel ih =>
    obtain ⟨first, -, obeyed, stepped⟩ := step_logs law r w []
    simp only [advance, bind, StateT.bind] at went
    rcases called : step p r w with ⟨_ | next, w₁⟩
    · rw [called] at went obeyed stepped
      cases went
      cases stepped
      exact ⟨[], by rwa [List.append_nil], obeyed⟩
    · rw [called] at went obeyed stepped
      obtain ⟨later, trail, obeyed'⟩ := ih (trail.move stepped) went
      refine ⟨first ++ later, ?_, law.trans obeyed obeyed'⟩
      rwa [← List.append_assoc]

end

/-! ## Coming to an end -/

variable {r r' : Run} {n n' : Node} {l : Loop} {e : Entry} {deeds : List Deed}

/-- **A closed source** of a loop that has its node to itself. The clock reaches the end of its
waits, no send of it waits for ever, and the entry, if there is one, is `e`. -/
structure Closing (n : Node) (l : Loop) (e : Entry) : Prop where
  closed : (n.transport.queue l.source).closed = true
  receiveWait : n.transport.reaches l.config.receiveWait = true
  sendWait : n.transport.reaches l.config.sendWait = true
  patience : l.config.sendWait = .indefinite → n.transport.capacity = none
  entry : ∀ e', n.store.entry? l.source = some e' → e' = e

namespace Closing

theorem move (h : Closing n r.loop e) (move : r.Move deeds r') (alone : n.Alone deeds n') :
    Closing n' r'.loop e := by
  have clock (wait : WaitPolicy) : n'.transport.reaches wait = n.transport.reaches wait :=
    Transport.reaches_congr alone.reach rfl
  refine ⟨?_, ?_, ?_, fun wait => ?_, fun e' found => ?_⟩
  · rw [move.source_eq, alone.closed]
    exact h.closed
  · rw [move.config_eq, clock]
    exact h.receiveWait
  · rw [move.config_eq, clock]
    exact h.sendWait
  · rw [alone.capacity]
    exact h.patience (move.config_eq ▸ wait)
  · rw [move.source_eq, alone.store] at found
    exact h.entry e' found

/-- **Such a run never waits.** -/
theorem outcome_of_step_none (h : Closing n r.loop e)
    (stuck : (step Node.soleLoopAccess r n).1 = none) : r.outcome?.isSome = true := by
  refine Run.outcome_of_step_none (fun _ => rfl) ?_ (fun t m => ?_) stuck
  · refine Option.isSome_map.trans (Option.isSome_iff_ne_none.mpr fun waits => ?_)
    rcases Transport.receiveAlone_eq_none_iff.mp waits with beyond | ⟨-, open_, -⟩
    · cases h.receiveWait.symm.trans beyond
    · cases h.closed.symm.trans open_
  · refine Option.isSome_iff_ne_none.mpr fun waits => ?_
    rcases Transport.sendAlone_eq_none_iff.mp waits with beyond | ⟨-, full, forever⟩
    · cases h.sendWait.symm.trans beyond
    · have unbounded : n.transport.capacity = none := by
        cases wait : r.loop.config.sendWait with
        | indefinite => exact h.patience wait
        | immediate | timeout d =>
          rw [wait] at forever
          cases forever
      rw [Transport.hasRoom, unbounded] at full
      cases full

/-- **It comes to its end.** -/
theorem ends (h : Closing n r.loop e) :
    ∃ r' n', r'.outcome?.isSome = true ∧
      ∀ fuel, r.phase.toGo e (n.transport.messages r.loop.source) ≤ fuel →
        advance Node.soleLoopAccess fuel r n = (r', n') := by
  refine advance_ends (fun r n => Closing n r.loop e)
    (fun r n => r.phase.toGo e (n.transport.messages r.loop.source)) ?_ (Nat.le_refl _) h
  intro r n going
  obtain ⟨deeds, -, alone, stepped⟩ := step_logs Node.law_alone r n []
  rcases called : step Node.soleLoopAccess r n with ⟨_ | r', n'⟩
  · exact .inl (going.outcome_of_step_none (congrArg Prod.fst called))
  · rw [called] at alone stepped
    refine .inr ⟨r', n', rfl, going.move stepped alone, ?_⟩
    rw [Move.source_eq stepped]
    refine Move.toGo_lt_of_receipts stepped (alone.messages_eq going.closed) fun e' found => ?_
    exact going.entry e' (Except.ok.inj (alone.read _ _ found)).symm

end Closing

/-! ## Not coming to an end -/

/-- **A run that has not got past its first receive**, since the clock does not reach the end of its
wait. The channels hold `ms`. -/
structure BrokenOff (ms : ChannelKey → List Message) (r : Run) (n : Node) : Prop where
  early : r.phase = .ready ∨ r.phase = .opening ∨ r.phase = .receiving
  beyond : n.transport.reaches r.loop.config.receiveWait = false
  messages : n.transport.messages = ms

namespace BrokenOff

variable {ms : ChannelKey → List Message}

theorem outcome_eq (h : BrokenOff ms r n) : r.outcome? = none := by
  unfold outcome?
  rcases h.early with hp | hp | hp <;> rw [hp]

/-- No step gets it any further. -/
theorem step (h : BrokenOff ms r n) :
    (∃ r' n', Run.step Node.soleLoopAccess r n = (some r', n') ∧ BrokenOff ms r' n') ∨
      Run.step Node.soleLoopAccess r n = (none, n) := by
  rcases h.early with hp | hp | hp <;> simp only [Run.step, hp]
  · exact .inl ⟨_, _, rfl, .inr (.inl rfl), h.beyond, h.messages⟩
  · exact .inl ⟨_, _, rfl, .inr (.inr rfl), h.beyond, h.messages⟩
  · have waits : Node.soleLoopAccess.receive r.loop.source r.loop.config.receiveWait n =
        (none, n) := by
      show (Option.map _ (n.transport.receiveAlone _ _).1,
        { n with transport := (n.transport.receiveAlone _ _).2 }) = _
      rw [Transport.receiveAlone_beyond h.beyond]
      rfl
    simp only [bind, StateT.bind, waits]
    exact .inr rfl

/-- **However long it goes on, it has no outcome and has taken no message.** -/
theorem advance (h : BrokenOff ms r n) (fuel : Nat) :
    BrokenOff ms (Run.advance Node.soleLoopAccess fuel r n).1
      (Run.advance Node.soleLoopAccess fuel r n).2 := by
  induction fuel generalizing r n with
  | zero => exact h
  | succ fuel ih =>
    rcases h.step with ⟨r', n', stepped, h'⟩ | stays
    · simp only [Run.advance, bind, StateT.bind, stepped]
      exact ih h'
    · simp only [Run.advance, bind, StateT.bind, stays]
      exact h

end BrokenOff

end ChannelRouting.Run

/-! ## How it ends -/

namespace ChannelRouting.Loop

/-- What is noted of a message that a loop cannot send to its own source, since it is closed. -/
def refusal (source : ChannelKey) (m : Message) : SendFailure :=
  { target := source, messageId := m.id, error := .closed source }

/-- **How a run ends of a loop whose source is closed.** `left` is the loop as the run leaves it, with
counters that go on from those it had. -/
structure ShutDown (l : Loop) (n : Node) (outcome : Except LoopError LoopStats) (left : Loop)
    (n' : Node) : Prop where
  /-- No more is received than was queued. -/
  received_le : left.stats.received ≤ l.stats.received + (n.transport.messages l.source).length
  /-- With an entry, the run drains the source. -/
  drained : ∀ e, n.store.entry? l.source = some e → outcome = .ok left.stats ∧
    left.stats.received = l.stats.received + (n.transport.messages l.source).length ∧
    n'.transport.messages l.source = []
  /-- What was to go back to the source has failed, once for each message that had it as a target. -/
  refused : ∀ e, n.store.entry? l.source = some e →
    ∃ failures, left.stats.sendErrors = l.stats.sendErrors ++ failures ∧
      failures.filter (fun f => f.target = l.source) =
        ((n.transport.messages l.source).filter fun m => l.source ∈ e.targets m).map
          (refusal l.source)
  /-- Without an entry, the run stops at the first message, if there is one. -/
  absent : n.store.entry? l.source = none →
    (n.transport.messages l.source = [] → outcome = .ok l.stats) ∧
    ∀ m rest, n.transport.messages l.source = m :: rest →
      outcome = .error (.entryAbsent l.source m) ∧
      left.stats.received = l.stats.received + 1 ∧ n'.transport.messages l.source = rest

variable {n n' : Node} {source : ChannelKey} {c : Course} {all : List Deed}

/-- An attempt to send to a closed source is refused. -/
theorem attempt_eq_refused (alone : n.Alone all n')
    (closed : (n.transport.queue source).closed = true) {a : Attempt} {m : Message}
    (within : a.deeds m ⊆ all) (own : a.target = source) : a = .refused source (.closed source) := by
  cases a with
  | unopened t e => exact absurd (within List.mem_cons_self) (alone.opened t e)
  | refused t e =>
    obtain rfl : t = source := own
    cases alone.refused t m _ closed (within (List.mem_cons_of_mem _ List.mem_cons_self))
    rfl
  | delivered t =>
    obtain rfl : t = source := own
    cases alone.refused t m _ closed (within (List.mem_cons_of_mem _ List.mem_cons_self))

/-- Of the failures among attempts at different targets, one is of the source, if it was tried and
refused the message. -/
theorem filter_failures {m : Message} {attempts : List Attempt}
    (once : (attempts.map Attempt.target).Nodup)
    (refused : ∀ a ∈ attempts, a.target = source → a = .refused source (.closed source)) :
    (attempts.filterMap (Attempt.failure? m)).filter (fun f => f.target = source) =
      if source ∈ attempts.map Attempt.target then [refusal source m] else [] := by
  induction attempts with
  | nil => rfl
  | cons a rest ih =>
    obtain ⟨fresh, once⟩ := List.nodup_cons.mp once
    have later := ih once fun b hb => refused b (List.mem_cons_of_mem a hb)
    by_cases own : a.target = source
    · have noted : Attempt.failure? m a = some (refusal source m) := by
        rw [refused a List.mem_cons_self own]
        rfl
      rw [if_neg (own ▸ fresh)] at later
      rw [if_pos (own ▸ List.mem_cons_self), List.filterMap_cons_some noted, List.filter_cons, later]
      exact if_pos (decide_eq_true rfl)
    · have dropped : ((a :: rest).filterMap (Attempt.failure? m)).filter (fun f => f.target = source) =
          (rest.filterMap (Attempt.failure? m)).filter fun f => f.target = source := by
        cases a with
        | delivered t => rfl
        | unopened t e | refused t e =>
          exact List.filter_cons_of_neg (Bool.eq_false_iff.mp (decide_eq_false own))
      simp only [dropped, later, List.map_cons, List.mem_cons, Ne.symm own, false_or]

/-- The same of whole rounds under one entry. -/
theorem filter_failures_rounds {e : Entry} {rounds : List Round} (entry : ∀ r ∈ rounds, r.entry = e)
    (refused : ∀ r ∈ rounds, ∀ a ∈ r.attempts, a.target = source →
      a = .refused source (.closed source)) :
    (rounds.flatMap LoopStats.failures).filter (fun f => f.target = source) =
      ((rounds.map Round.message).filter fun m => source ∈ e.targets m).map (refusal source) := by
  induction rounds with
  | nil => rfl
  | cons r rest ih =>
    have once : (r.attempts.map Attempt.target).Nodup := r.complete ▸ targets_nodup r.entry r.message
    have later := ih (fun q hq => entry q (List.mem_cons_of_mem r hq))
      fun q hq => refused q (List.mem_cons_of_mem r hq)
    rw [List.flatMap_cons, List.filter_append, later, LoopStats.failures,
      filter_failures once (refused r List.mem_cons_self), r.complete, entry r List.mem_cons_self,
      List.map_cons]
    by_cases own : source ∈ e.targets r.message
    · rw [if_pos (SortedSet.mem_def.mp own), List.filter_cons, if_pos (decide_eq_true own)]
      rfl
    · rw [if_neg (mt SortedSet.mem_def.mpr own), List.filter_cons,
        if_neg (Bool.eq_false_iff.mp (decide_eq_false own))]
      rfl

/-- Every round of such a loop reads the entry of the store. -/
theorem entry_of_round (alone : n.Alone (c.deeds source) n') {r : Round} (hr : r ∈ c.rounds) :
    n.store.entry? source = some r.entry := by
  have read : .read source (.ok (some r.entry)) ∈ c.deeds source :=
    mem_deeds_of_round hr (List.mem_cons_of_mem _ List.mem_cons_self)
  exact (Except.ok.inj (alone.read source _ read)).symm

/-- **A course on a closed source** drains it, or stops at the first message for lack of an entry. -/
theorem course_of_alone (alone : n.Alone (c.deeds source) n')
    (closed : (n.transport.queue source).closed = true) :
    (∃ rounds, c = .opened rounds .drained ∧ n'.transport.messages source = [] ∧
      n.transport.messages source = rounds.map Round.message) ∨
    ∃ m, c = .opened [] (.absent m) ∧ n.store.entry? source = none ∧
      n.transport.messages source = m :: n'.transport.messages source := by
  have left := alone.messages_eq closed
  rw [receipts_course] at left
  cases c with
  | unopened e => exact absurd List.mem_cons_self (alone.opened source e)
  | opened rounds ending =>
    have last {d : Deed} (hd : d ∈ ending.deeds source) :
        d ∈ (Course.opened rounds ending).deeds source := List.mem_append_right _ hd
    cases ending with
    | failed e => exact absurd (last List.mem_cons_self) (alone.received source e)
    | unreadable m e =>
      cases alone.read source _ (last (List.mem_cons_of_mem _ List.mem_cons_self))
    | drained =>
      have empty := alone.drained source closed (last List.mem_cons_self)
      rw [empty, List.append_nil] at left
      exact .inl ⟨rounds, rfl, empty, left.trans (List.append_nil _)⟩
    | absent m =>
      have missing : n.store.entry? source = none :=
        (Except.ok.inj (alone.read source _ (last (List.mem_cons_of_mem _ List.mem_cons_self)))).symm
      cases rounds with
      | nil => exact .inr ⟨m, rfl, missing, left⟩
      | cons r rest => cases missing.symm.trans (entry_of_round alone List.mem_cons_self)

/-- What a course on a closed source makes of its loop. -/
theorem shutDown_of_course {l left : Loop} (alone : n.Alone (c.deeds l.source) n')
    (closed : (n.transport.queue l.source).closed = true)
    (counted : left = { l.withStats (l.stats.course c) with state := .stopped }) :
    ShutDown l n (c.outcome l.source l.stats) left n' := by
  rcases course_of_alone alone closed with ⟨rounds, rfl, empty, messages⟩ | ⟨m, rfl, missing, messages⟩
  · have entry {e : Entry} (found : n.store.entry? l.source = some e) :
        ∀ r ∈ rounds, r.entry = e := by
      intro r hr
      exact Option.some.inj ((entry_of_round alone hr).symm.trans found)
    have stats : left.stats = l.stats.rounds rounds := by
      rw [counted]
      rfl
    have received : left.stats.received =
        l.stats.received + (n.transport.messages l.source).length := by
      rw [stats, LoopStats.rounds_eq, messages, List.length_map]
    refine ⟨Nat.le_of_eq received, fun e found => ⟨?_, received, empty⟩, fun e found => ?_,
      fun missing => ⟨fun nothing => ?_, fun m rest some => ?_⟩⟩
    · rw [stats]
      rfl
    · refine ⟨rounds.flatMap LoopStats.failures, ?_, ?_⟩
      · rw [stats, LoopStats.rounds_eq]
      · rw [messages]
        refine filter_failures_rounds (entry found) fun r hr a ha => ?_
        refine attempt_eq_refused alone closed (m := r.message) fun d hd => mem_deeds_of_round hr ?_
        exact List.mem_cons_of_mem _ (List.mem_cons_of_mem _ (List.mem_flatMap.mpr ⟨a, ha, hd⟩))
    · cases List.map_eq_nil_iff.mp (messages.symm.trans nothing)
      rfl
    · obtain ⟨r, later, rfl, -⟩ := List.map_eq_cons_iff.mp (messages.symm.trans some)
      cases missing.symm.trans (entry_of_round alone List.mem_cons_self)
  · have received : left.stats.received = l.stats.received + 1 := by
      rw [counted]
      rfl
    refine ⟨?_, fun e found => ?_, fun e found => ?_, fun _ => ⟨fun nothing => ?_, fun m' rest some => ?_⟩⟩
    · rw [received, messages, List.length_cons]
      omega
    · cases missing.symm.trans found
    · cases missing.symm.trans found
    · cases messages.symm.trans nothing
    · obtain ⟨rfl, rfl⟩ := List.cons_eq_cons.mp (messages.symm.trans some)
      exact ⟨rfl, received, rfl⟩

/-- A closed source that routes to itself and to a target with room for one message. -/
def echo : Node :=
  let route (name : String) : Route := { target := ⟨name⟩, keys := .ofList ["k"] }
  let queued : Queue := { messages := [.new (.ofNat 1) [], .new (.ofNat 2) []], closed := true }
  { store := .memory (Table.putIfAbsent .empty
      { channel := ⟨"s"⟩, strategy := some .fanout, routes := [route "s", route "a"] }).2
    transport := Transport.withQueue { capacity := some 1 } ⟨"s"⟩ queued }

/-- Its loop waits for messages for ever. -/
def echoLoop : Loop := { id := 0, source := ⟨"s"⟩ }

/-- A closed source with one message, which goes nowhere. -/
def stray : Node where
  store := .memory (Table.putIfAbsent .empty (.empty ⟨"s"⟩)).2
  transport := Transport.withQueue {} ⟨"s"⟩ { messages := [.new (.ofNat 1) []], closed := true }

/-- The longest wait that has a limit. -/
def overlong : WaitPolicy := .timeout { secs := 0xFFFFFFFFFFFFFFFF, nanos := 999999999 }

/-- The loop, waiting so long for messages. -/
def lateLoop : Loop := { echoLoop with config := { receiveWait := overlong } }

/-- The loop, waiting so long for room. -/
def stuckLoop : Loop := { echoLoop with config := { sendWait := overlong } }

/-- A run of the loop while the store is down, and one more when it is not. They are not to be
unfolded where terms are compared: that would run them. -/
@[irreducible] def strandedRun : Run × Node :=
  Run.advance (Node.soleLoopAccess.outage fun _ => some (.unavailable "down")) 20
    (echoLoop.start "worker") stray

@[irreducible] def recoveredRun : Run × Node :=
  Run.advance Node.soleLoopAccess 20 (strandedRun.1.loop.start "worker") strandedRun.2

end ChannelRouting.Loop
