import ChannelRouting.Node
import ChannelRouting.Proofs.Loop.Pairs
import ChannelRouting.Proofs.Transport.Polls
import Mathlib.Data.List.Basic

/-!
# Loops that poll

Two runs of a loop are compared whose settings differ by policies with the same limits
(`LoopConfig.SameLimits`): a poll here, a timeout of zero there. Both do the same at every step.
The failures that one notes are those of the other, except that the end of a wait is told under the
name that the policy has for it (`SendFailure.retold`); those noted in earlier runs are the same.

`Access.Retells` is what is asked of an access for that. One step keeps two runs alike
(`step_alike`), and so does any number (`advance_alike`). What others do to a node in between is
taken in by `Access.amid`.
-/

namespace ChannelRouting

/-- **Settings that wait equally long.** -/
structure LoopConfig.SameLimits (c c' : LoopConfig) : Prop where
  receiveWait : c.receiveWait.limit = c'.receiveWait.limit
  sendWait : c.sendWait.limit = c'.sendWait.limit

/-- A failure as a loop with another policy notes it. -/
def SendFailure.retold (p q : WaitPolicy) (f : SendFailure) : SendFailure :=
  { f with error := f.error.retold f.target p q }

/-- **Counters of two runs that differ by names**: the failures noted since `earlier` are retold. -/
def LoopStats.Retold (earlier : List SendFailure) (p q : WaitPolicy) (s s' : LoopStats) : Prop :=
  ∃ new, s.sendErrors = earlier ++ new ∧
    s' = { s with sendErrors := earlier ++ new.map (.retold p q) }

namespace Loop

variable {σ : Type}

/-- **An access that retells**: under other settings it answers the same, and tells the end of a
wait to send under the name that these have for it. -/
structure Access.Retells (p : Access σ) (c c' : LoopConfig) : Prop where
  opened : ∀ key, Pairs (p.openChannel key) (p.openChannel key) fun a a' => a = a' ∧
    ∀ e, a = some (.error e) → e.retold key c.sendWait c'.sendWait = e
  received : ∀ key, p.receive key c'.receiveWait = p.receive key c.receiveWait
  sent : ∀ key m, Pairs (p.send key m c.sendWait) (p.send key m c'.sendWait) fun a a' =>
    a' = a.map (Except.mapError (.retold key c.sendWait c'.sendWait))
  emitted : ∀ e e', Pairs (p.emit e) (p.emit e') fun _ _ => True

/-! ## Runs that are alike -/

/-- Loops that differ by their settings and by the names of failures. -/
def Retold (earlier : List SendFailure) (c c' : LoopConfig) (l l' : Loop) : Prop :=
  l.config = c ∧ ∃ stats, l.stats.Retold earlier c.sendWait c'.sendWait stats ∧
    l' = { l with config := c', stats := stats }

/-- Reports that differ by the names of failures. -/
inductive ReportRetold (earlier : List SendFailure) (c c' : LoopConfig) :
    Except LoopError LoopStats → Except LoopError LoopStats → Prop
  | ok {s s' : LoopStats} : s.Retold earlier c.sendWait c'.sendWait s' →
    ReportRetold earlier c c' (.ok s) (.ok s')
  | error (e : LoopError) : ReportRetold earlier c c' (.error e) (.error e)

/-- **Two runs that are alike.** -/
structure RunsAlike (earlier : List SendFailure) (c c' : LoopConfig) (r r' : Run) : Prop where
  loop : Retold earlier c c' r.loop r'.loop
  thread : r'.thread = r.thread
  phase : (∀ report, r.phase ≠ .finished report) ∧ r'.phase = r.phase ∨
    ∃ report report', r.phase = .finished report ∧ r'.phase = .finished report' ∧
      ReportRetold earlier c c' report report'

namespace RunsAlike

variable {earlier : List SendFailure} {c c' : LoopConfig} {r r' : Run}

theorem source (h : RunsAlike earlier c c' r r') : r'.loop.source = r.loop.source := by
  obtain ⟨-, _, -, same⟩ := h.loop
  rw [same]

theorem config (h : RunsAlike earlier c c' r r') : r.loop.config = c ∧ r'.loop.config = c' := by
  obtain ⟨own, _, -, same⟩ := h.loop
  rw [same]
  exact ⟨own, rfl⟩

/-- Runs that have not finished are in the same phase. -/
theorem phase_eq (h : RunsAlike earlier c c' r r') {phase : Phase} (hp : r.phase = phase)
    (going : ∀ report, phase ≠ .finished report) : r'.phase = phase := by
  rcases h.phase with ⟨-, same⟩ | ⟨report, -, finished, -⟩
  · rw [same, hp]
  · exact absurd (hp.symm.trans finished) (going report)

/-- Both go on to the same phase. -/
theorem into (h : RunsAlike earlier c c' r r') {phase : Phase}
    (going : ∀ report, phase ≠ .finished report) :
    RunsAlike earlier c c' { r with phase := phase } { r' with phase := phase } :=
  ⟨h.loop, h.thread, .inl ⟨going, rfl⟩⟩

/-- Both count the same, failures apart. -/
theorem goOn (h : RunsAlike earlier c c' r r') (count : LoopStats → LoopStats)
    (apart : ∀ s failures, (count { s with sendErrors := failures }) =
      { count s with sendErrors := failures }) {phase : Phase}
    (going : ∀ report, phase ≠ .finished report) :
    RunsAlike earlier c c' (r.goOn (count r.loop.stats) phase) (r'.goOn (count r'.loop.stats) phase) := by
  obtain ⟨own, stats, ⟨new, failures, rfl⟩, same⟩ := h.loop
  have kept : (count r.loop.stats).sendErrors = r.loop.stats.sendErrors := by
    have unchanged := congrArg LoopStats.sendErrors (apart r.loop.stats r.loop.stats.sendErrors)
    exact unchanged
  refine ⟨⟨own, _, ⟨new, kept.trans failures, rfl⟩, ?_⟩, h.thread, .inl ⟨going, rfl⟩⟩
  unfold Run.goOn
  rw [same, apart]

/-- Both note a failure, the one under the name that the other retells. -/
theorem noteFailure (h : RunsAlike earlier c c' r r') (m : Message) (target : ChannelKey)
    (rest : List ChannelKey) (e : TransportError) :
    RunsAlike earlier c c' (r.noteFailure m target rest e)
      (r'.noteFailure m target rest (e.retold target c.sendWait c'.sendWait)) := by
  obtain ⟨own, stats, ⟨new, failures, rfl⟩, same⟩ := h.loop
  refine ⟨⟨own, _, ⟨new ++ [⟨target, m.id, e⟩], ?_, rfl⟩, ?_⟩, h.thread, .inl ⟨nofun, rfl⟩⟩
  · show r.loop.stats.sendErrors ++ [_] = _
    rw [failures, List.append_assoc]
  · unfold Run.noteFailure Run.goOn
    rw [same, List.map_append, ← List.append_assoc]
    rfl

end RunsAlike

end Loop

namespace Run

open Loop

variable {σ : Type} {p : Access σ} {earlier : List SendFailure} {c c' : LoopConfig} {r r' : Run}

theorem finish_alike (retells : p.Retells c c') (h : RunsAlike earlier c c' r r')
    {report report' : Except LoopError LoopStats} (told : ReportRetold earlier c c' report report') :
    Pairs (finish p r report) (finish p r' report') (RunsAlike earlier c c') := by
  have stopped : RunsAlike earlier c c'
      { r with loop := { r.loop with state := .stopped }, phase := .finished report }
      { r' with loop := { r'.loop with state := .stopped }, phase := .finished report' } := by
    obtain ⟨own, stats, failures, same⟩ := h.loop
    exact ⟨⟨own, stats, failures, by rw [same]⟩, h.thread, .inr ⟨report, report', rfl, rfl, told⟩⟩
  cases told with
  | ok counters => exact Pairs.bind (retells.emitted _ _) fun _ _ _ => Pairs.pure stopped
  | error e => exact Pairs.bind (retells.emitted _ _) fun _ _ _ => Pairs.pure stopped

theorem leave_alike (retells : p.Retells c c') (h : RunsAlike earlier c c' r r')
    {report report' : Except LoopError LoopStats} (told : ReportRetold earlier c c' report report') :
    Pairs (leave p r report) (leave p r' report') (RunsAlike earlier c c') := by
  unfold leave
  rw [h.source]
  exact Pairs.same_bind fun _ => finish_alike retells h told

theorem afterReceive_alike (retells : p.Retells c c') (h : RunsAlike earlier c c' r r')
    (answer : Except TransportError (Option Message)) :
    Pairs (afterReceive p r answer) (afterReceive p r' answer) (RunsAlike earlier c c') := by
  rcases answer with e | _ | m
  · exact Pairs.bind (retells.emitted _ _) fun _ _ _ => leave_alike retells h (.error _)
  · obtain ⟨-, stats, failures, same⟩ := h.loop
    have counters : r'.loop.stats = stats := by rw [same]
    exact leave_alike retells h (.ok (counters ▸ failures))
  · refine Pairs.bind (retells.emitted _ _) fun _ _ _ => Pairs.pure ?_
    exact h.goOn (fun s => { s with received := s.received + 1 }) (fun _ _ => rfl) nofun

theorem afterRead_alike (retells : p.Retells c c') (h : RunsAlike earlier c c' r r') (m : Message)
    (e : Entry) : Pairs (afterRead p r m e) (afterRead p r' m e) (RunsAlike earlier c c') := by
  simp only [afterRead]
  by_cases unrouted : (e.targets m).isEmpty = true
  · rw [if_pos unrouted, if_pos unrouted]
    refine Pairs.bind (retells.emitted _ _) fun _ _ _ => Pairs.pure ?_
    exact h.goOn (fun s => { s with dropped := s.dropped + 1 }) (fun _ _ => rfl) nofun
  · rw [if_neg unrouted, if_neg unrouted]
    exact Pairs.pure (h.goOn id (fun _ _ => rfl) nofun)

theorem afterSend_alike (retells : p.Retells c c') (h : RunsAlike earlier c c' r r') (m : Message)
    (target : ChannelKey) (rest : List ChannelKey) (answer : Except TransportError Unit) :
    Pairs (afterSend p r m target rest answer)
      (afterSend p r' m target rest (answer.mapError (.retold target c.sendWait c'.sendWait)))
      (RunsAlike earlier c c') := by
  rcases answer with e | _
  · refine Pairs.bind (retells.emitted _ _) fun _ _ _ => Pairs.same_bind fun _ => ?_
    exact Pairs.pure (h.noteFailure m target rest e)
  · refine Pairs.bind (retells.emitted _ _) fun _ _ _ => Pairs.same_bind fun _ => ?_
    exact Pairs.pure (h.goOn (fun s => { s with forwarded := s.forwarded + 1 }) (fun _ _ => rfl) nofun)

/-- **One step keeps two runs alike.** -/
theorem step_alike (retells : p.Retells c c') (h : RunsAlike earlier c c' r r') :
    Pairs (step p r) (step p r') (Option.Rel (RunsAlike earlier c c')) := by
  obtain ⟨own, own'⟩ := h.config
  cases hp : r.phase with
  | ready =>
    simp only [step, hp, h.phase_eq hp nofun]
    refine Pairs.bind (retells.emitted _ _) fun _ _ _ => Pairs.pure (.some (h.into nofun))
  | opening =>
    simp only [step, hp, h.phase_eq hp nofun, h.source]
    refine Pairs.same_bind fun answer => ?_
    rcases answer with _ | e | _
    · exact Pairs.pure .none
    · exact (finish_alike retells h (.error _)).some
    · exact Pairs.pure (.some (h.into nofun))
  | receiving =>
    simp only [step, hp, h.phase_eq hp nofun, h.source, own, own', retells.received]
    refine Pairs.same_bind fun answer => ?_
    cases answer with
    | none => exact Pairs.pure .none
    | some answer => exact (afterReceive_alike retells h answer).some
  | reading m =>
    simp only [step, hp, h.phase_eq hp nofun, h.source]
    refine Pairs.same_bind fun answer => ?_
    rcases answer with e | _ | e
    · refine Pairs.bind (retells.emitted _ _) fun _ _ _ => ?_
      exact (leave_alike retells h (.error _)).some
    · refine Pairs.bind (retells.emitted _ _) fun _ _ _ => ?_
      exact (leave_alike retells h (.error _)).some
    · exact (afterRead_alike retells h m e).some
  | forwarding m targets =>
    cases targets with
    | nil =>
      simp only [step, hp, h.phase_eq hp nofun]
      exact Pairs.pure (.some (h.into nofun))
    | cons target rest =>
      simp only [step, hp, h.phase_eq hp nofun]
      exact Pairs.bind (retells.emitted _ _) fun _ _ _ => Pairs.pure (.some (h.into nofun))
  | reaching m target rest =>
    simp only [step, hp, h.phase_eq hp nofun]
    refine Pairs.bind (retells.opened target) fun answer _ ⟨same, apart⟩ => ?_
    subst same
    rcases answer with _ | e | _
    · exact Pairs.pure .none
    · refine Pairs.bind (retells.emitted _ _) fun _ _ _ => Pairs.pure (.some ?_)
      have noted := h.noteFailure m target rest e
      rwa [apart e rfl] at noted
    · exact Pairs.pure (.some (h.into nofun))
  | sending m target rest =>
    simp only [step, hp, h.phase_eq hp nofun, own, own']
    refine Pairs.bind (retells.sent target m) fun answer _ same => ?_
    subst same
    cases answer with
    | none => exact Pairs.pure .none
    | some answer =>
      exact (afterSend_alike retells h m target rest answer).some
  | finished report =>
    have finished : ∃ report', r'.phase = .finished report' := by
      rcases h.phase with ⟨going, -⟩ | ⟨_, report', -, finished, -⟩
      · exact absurd hp (going report)
      · exact ⟨report', finished⟩
    obtain ⟨report', hp'⟩ := finished
    simp only [step, hp, hp']
    exact Pairs.pure .none

/-- **Two runs stay alike**, however far they go. -/
theorem advance_alike (retells : p.Retells c c') (h : RunsAlike earlier c c' r r') (fuel : Nat) :
    Pairs (advance p fuel r) (advance p fuel r') (RunsAlike earlier c c') := by
  induction fuel generalizing r r' with
  | zero => exact Pairs.pure h
  | succ fuel ih =>
    refine Pairs.bind (step_alike retells h) fun next next' alike => ?_
    cases alike with
    | none => exact Pairs.pure h
    | some alike => exact ih alike

end Run

/-! ## Nodes -/

namespace Loop.Access

variable {σ α : Type} {p : Access σ} {c c' : LoopConfig}

/-- A call before which others act, if it is their turn. -/
def interposed (call : StateM σ α) : StateM (σ × List (σ → σ)) α := fun w =>
  let done := call (w.2.headD (fun w => w) w.1)
  (done.1, (done.2, w.2.tail))

/-- **An access in the midst of others**, who have a list of what they are still to do. Each call
comes after one of these deeds. -/
def amid (p : Access σ) : Access (σ × List (σ → σ)) where
  openChannel key := interposed (p.openChannel key)
  receive key wait := interposed (p.receive key wait)
  readEntry key := interposed (p.readEntry key)
  send key m wait := interposed (p.send key m wait)
  release key := interposed (p.release key)
  emit e := interposed (p.emit e)

theorem pairs_interposed {β : Type} {x : StateM σ α} {y : StateM σ β} {Q : α → β → Prop}
    (h : Pairs x y Q) : Pairs (interposed x) (interposed y) Q := by
  intro w
  obtain ⟨state, answers⟩ := h (w.2.headD (fun w => w) w.1)
  refine ⟨?_, answers⟩
  show ((x _).2, w.2.tail) = ((y _).2, w.2.tail)
  rw [state]

/-- What others do in between is the same in both runs. -/
theorem Retells.amid (h : p.Retells c c') : p.amid.Retells c c' where
  opened key := pairs_interposed (h.opened key)
  received key := congrArg interposed (h.received key)
  sent key m := pairs_interposed (h.sent key m)
  emitted e e' := pairs_interposed (h.emitted e e')

end Loop.Access

/-- **A node retells** under settings that wait equally long. -/
theorem Node.retells_soleLoopAccess {c c' : LoopConfig} (same : c.SameLimits c') :
    Node.soleLoopAccess.Retells c c' where
  opened key n := by
    refine ⟨rfl, rfl, fun e failed => ?_⟩
    cases failed
  received key := by
    unfold soleLoopAccess
    simp only [Transport.receiveAlone_of_limit_eq same.receiveWait]
  sent key m n := by
    have answers := n.transport.sendAlone_retold same.sendWait key m
    show ({ n with transport := (n.transport.sendAlone key m c.sendWait).2 } : Node) =
        { n with transport := (n.transport.sendAlone key m c'.sendWait).2 } ∧
      (n.transport.sendAlone key m c'.sendWait).1 = (n.transport.sendAlone key m c.sendWait).1.map _
    rw [answers]
    exact ⟨rfl, rfl⟩
  emitted _ _ _ := ⟨rfl, trivial⟩

/-! ## What is told of a wait -/

/-- **How two runs of a loop compare**, `r` under its own settings and `r'` under others. -/
structure Loop.Twins (l : Loop) (c' : LoopConfig) (r r' : Run) : Prop where
  /-- The counters are the same, the names of the failures noted meanwhile apart. -/
  stats : r.loop.stats.Retold l.stats.sendErrors l.config.sendWait c'.sendWait r'.loop.stats
  /-- They are the same altogether just if no send of the run found its wait over. -/
  same_iff : r.loop.stats = r'.loop.stats ↔ l.config.sendWait = c'.sendWait ∨
    ∀ f ∈ r.loop.stats.sendErrors.drop l.stats.sendErrors.length,
      f.error ≠ .ofWait f.target l.config.sendWait
  /-- Both have finished or neither has, and both report the same, those names apart. -/
  report : Option.Rel (Loop.ReportRetold l.stats.sendErrors l.config c') r.outcome? r'.outcome?

theorem SendFailure.map_retold_eq_iff {p q : WaitPolicy} (limits : p.limit = q.limit)
    {failures : List SendFailure} :
    failures.map (.retold p q) = failures ↔
      p = q ∨ ∀ f ∈ failures, f.error ≠ .ofWait f.target p := by
  have one (f : SendFailure) : f.retold p q = f ↔ p = q ∨ f.error ≠ .ofWait f.target p := by
    rw [← TransportError.retold_eq_iff limits]
    constructor
    · exact congrArg SendFailure.error
    · intro same
      rw [retold, same]
  induction failures with
  | nil => simp
  | cons f rest ih =>
    rw [List.map_cons, List.cons.injEq, one, List.forall_mem_cons, or_and_left]
    exact and_congr_right' ih

/-- Runs that are alike compare as they should. -/
theorem Loop.RunsAlike.twins {l : Loop} {c' : LoopConfig} (limits : l.config.SameLimits c')
    {r r' : Run} (h : RunsAlike l.stats.sendErrors l.config c' r r') : Twins l c' r r' := by
  obtain ⟨-, stats, retold, same⟩ := h.loop
  have counters : r'.loop.stats = stats := by rw [same]
  refine ⟨counters ▸ retold, ?_, ?_⟩
  · obtain ⟨new, failures, rfl⟩ := retold
    rw [counters, failures, List.drop_left, ← SendFailure.map_retold_eq_iff limits.sendWait]
    constructor
    · intro equal
      have noted := congrArg LoopStats.sendErrors equal
      rw [failures] at noted
      exact (List.append_cancel_left noted).symm
    · intro kept
      rw [kept, ← failures]
  · rcases h.phase with ⟨going, phase⟩ | ⟨report, report', finished, finished', told⟩
    · have unfinished {r : Run} (going : ∀ report, r.phase ≠ .finished report) :
          r.outcome? = none := by
        unfold Run.outcome?
        split
        · next report hp => exact absurd hp (going report)
        · rfl
      rw [unfinished going, unfinished (phase ▸ going)]
      exact .none
    · rw [Run.outcome?, Run.outcome?, finished, finished']
      exact .some told

/-- **Only the limit of a wait matters, but for the name that its end is given.** Receives are the
same under policies with one limit, and sends are but for a failure on a channel that is open and
full. So two runs of a loop, whatever others do in between, do the same and count the same, the
names of such failures apart. -/
theorem waits_differ_by_name (p q : WaitPolicy) (limits : p.limit = q.limit) :
    (∀ (t : Transport) (key : ChannelKey), t.receiveAlone key p = t.receiveAlone key q) ∧
    (∀ (t : Transport) (key : ChannelKey) (m : Message),
      t.sendAlone key m q = ((t.sendAlone key m p).1.map (Except.mapError (.retold key p q)),
        (t.sendAlone key m p).2) ∧
      (t.sendAlone key m p = t.sendAlone key m q ↔
        p = q ∨ (t.queue key).closed = true ∨ t.hasRoom (t.messages key).length = true)) ∧
    ∀ (l : Loop) (c' : LoopConfig), l.config.SameLimits c' →
      ∀ (thread : String) (fuel : Nat) (w : Node × List (Node → Node)),
        let one := Run.advance Node.soleLoopAccess.amid fuel (l.start thread) w
        let other :=
          Run.advance Node.soleLoopAccess.amid fuel (Loop.start { l with config := c' } thread) w
        one.2 = other.2 ∧ Loop.Twins l c' one.1 other.1 := by
  refine ⟨Transport.receiveAlone_of_limit_eq limits, ?_, ?_⟩
  · intro t key m
    exact ⟨t.sendAlone_retold limits key m, t.sendAlone_eq_iff limits key m⟩
  · intro l c' limits thread fuel w
    have start : Loop.RunsAlike l.stats.sendErrors l.config c' (l.start thread)
        (Loop.start { l with config := c' } thread) := by
      have counters : l.stats.Retold l.stats.sendErrors l.config.sendWait c'.sendWait l.stats :=
        ⟨[], (List.append_nil _).symm, by rw [List.map_nil, List.append_nil]⟩
      exact ⟨⟨rfl, l.stats, counters, rfl⟩, rfl, .inl ⟨nofun, rfl⟩⟩
    have alike := Run.advance_alike (Node.retells_soleLoopAccess limits).amid start fuel w
    exact ⟨alike.1, alike.2.twins limits⟩

/-! ## A full channel -/

def leftover : Message := .new (.ofNat 1) []

/-- A node with room for one message on each channel. The source `s` is empty, and its one target `t`
is full. -/
def fullNode : Node where
  store := .memory (Table.putIfAbsent .empty
    { channel := ⟨"s"⟩, strategy := some .fanout, routes := [{ target := ⟨"t"⟩, keys := .ofList [] }] }).2
  transport := (Transport.enqueue { capacity := some 1 } ⟨"t"⟩ leftover).2

/-- A loop over it that waits alike for messages and for room. -/
def waitingLoop (p : WaitPolicy) : Loop :=
  { id := 1, source := ⟨"s"⟩, config := { receiveWait := p, sendWait := p } }

/-- Its run, while somebody puts a message on the source. It is not to be unfolded where terms are
compared: that would run it. -/
@[irreducible] def fullRun (p : WaitPolicy) : Run × Node × List (Node → Node) :=
  Run.advance Node.soleLoopAccess.amid 20 ((waitingLoop p).start "worker")
    (fullNode, [fun n => { n with transport := (n.transport.enqueue ⟨"s"⟩ leftover).2 }])

/-- With a timeout of zero in place of a poll, the run does the same and names its failure otherwise. -/
theorem waits_differ_by_name_full :
    let poll : LoopConfig := { receiveWait := .immediate, sendWait := .immediate }
    let zero : LoopConfig := { receiveWait := .timeout .zero, sendWait := .timeout .zero }
    poll.SameLimits zero ∧
      fullNode.transport.receiveAlone ⟨"s"⟩ .immediate =
        fullNode.transport.receiveAlone ⟨"s"⟩ (.timeout .zero) ∧
      (fullNode.transport.sendAlone ⟨"t"⟩ leftover .immediate).2 =
        (fullNode.transport.sendAlone ⟨"t"⟩ leftover (.timeout .zero)).2 ∧
      (fullRun .immediate).2 = (fullRun (.timeout .zero)).2 ∧
      Loop.Twins (waitingLoop .immediate) zero (fullRun .immediate).1 (fullRun (.timeout .zero)).1 := by
  intro poll zero
  have limits : WaitPolicy.immediate.limit = (WaitPolicy.timeout .zero).limit := rfl
  have same : poll.SameLimits zero := ⟨limits, limits⟩
  obtain ⟨receives, sends, runs⟩ := waits_differ_by_name _ _ limits
  refine ⟨same, receives _ _, ?_, ?_⟩
  · have retold := (sends fullNode.transport ⟨"t"⟩ leftover).1
    exact (congrArg Prod.snd retold).symm
  · unfold fullRun
    exact runs (waitingLoop .immediate) zero same "worker" 20 _

/-- **A timeout of zero is not the same as a poll.** On a full channel the one reports a timeout and
the other that the channel is full, and so the counters of two runs differ that differ in nothing
else. -/
theorem zero_timeout_is_no_poll :
    WaitPolicy.immediate.limit = (WaitPolicy.timeout .zero).limit ∧
      (fullNode.transport.sendAlone ⟨"t"⟩ leftover .immediate).1 =
        some (.error (.full ⟨"t"⟩)) ∧
      (fullNode.transport.sendAlone ⟨"t"⟩ leftover (.timeout .zero)).1 =
        some (.error (.timeout ⟨"t"⟩)) ∧
      (fullRun .immediate).1.outcome? = some (.ok
        { received := 1, sendErrors := [⟨⟨"t"⟩, .ofNat 1, .full ⟨"t"⟩⟩] }) ∧
      (fullRun (.timeout .zero)).1.outcome? = some (.ok
        { received := 1, sendErrors := [⟨⟨"t"⟩, .ofNat 1, .timeout ⟨"t"⟩⟩] }) := by
  refine ⟨rfl, ?_, ?_, ?_, ?_⟩ <;> decide +kernel

end ChannelRouting
