import ChannelRouting.Loop.Run

/-!
# What a run does

A deed is a call that a run made and that was answered. `Access.traced` is an access
that answers as another one does and keeps a list of the deeds: a traced run goes as
the run itself goes (`Logs`), so what is proved of the list is proved of the run.

`Move` is what one step of a run can be, whatever the surroundings answer: the deeds
of the step and the run after it. `step_logs` is the inversion of `Run.step` on which
everything about runs rests. It also carries a law along (`Access.Law`): a relation
between the surroundings before and after some deeds that every single call obeys.
-/

namespace ChannelRouting.Loop

variable {σ : Type} {α β : Type}

/-- A call of a run and the answer to it. -/
inductive Deed where
  | opened (key : ChannelKey) (answer : Except TransportError Unit)
  | received (key : ChannelKey) (answer : Except TransportError (Option Message))
  | read (key : ChannelKey) (answer : Except StoreError (Option Entry))
  | sent (key : ChannelKey) (m : Message) (answer : Except TransportError Unit)
  | released (key : ChannelKey)

/-- A call with the deeds it is, put behind those that are listed already. -/
def noting (call : StateM σ α) (deeds : α → List Deed) : StateM (σ × List Deed) α := fun s =>
  ((call s.1).1, ((call s.1).2, s.2 ++ deeds (call s.1).1))

/-- **An access that lists what was asked of it.** A call that has to wait is not listed. -/
def Access.traced (p : Access σ) : Access (σ × List Deed) where
  openChannel key := noting (p.openChannel key) fun a => a.toList.map (.opened key)
  receive key wait := noting (p.receive key wait) fun a => a.toList.map (.received key)
  readEntry key := noting (p.readEntry key) fun a => [.read key a]
  send key m wait := noting (p.send key m wait) fun a => a.toList.map (.sent key m)
  release key := noting (p.release key) fun _ => [.released key]
  emit e := noting (p.emit e) fun _ => []

/-- **A law of an access**: how the surroundings before some deeds stand to those after them. -/
structure Access.Law (p : Access σ) (R : σ → List Deed → σ → Prop) : Prop where
  refl : ∀ w, R w [] w
  trans : ∀ {w w₁ w₂ d₁ d₂}, R w d₁ w₁ → R w₁ d₂ w₂ → R w (d₁ ++ d₂) w₂
  openChannel : ∀ key w,
    R w ((p.openChannel key w).1.toList.map (.opened key)) (p.openChannel key w).2
  receive : ∀ key wait w,
    R w ((p.receive key wait w).1.toList.map (.received key)) (p.receive key wait w).2
  readEntry : ∀ key w, R w [.read key (p.readEntry key w).1] (p.readEntry key w).2
  send : ∀ key m wait w,
    R w ((p.send key m wait w).1.toList.map (.sent key m)) (p.send key m wait w).2
  release : ∀ key w, R w [.released key] (p.release key w).2
  emit : ∀ e w, R w [] (p.emit e w).2

/-- `x` is `y` with a list of deeds: it answers the same, and the deeds it adds agree with the
law and with `Q`. -/
def Logs (R : σ → List Deed → σ → Prop) (x : StateM (σ × List Deed) α) (y : StateM σ α)
    (Q : α → List Deed → Prop) : Prop :=
  ∀ w log, ∃ deeds, x (w, log) = ((y w).1, ((y w).2, log ++ deeds)) ∧
    R w deeds (y w).2 ∧ Q (y w).1 deeds

namespace Logs

variable {p : Access σ} {R : σ → List Deed → σ → Prop}

theorem pure (law : p.Law R) {Q : α → List Deed → Prop} {a : α} (h : Q a []) :
    Logs R (Pure.pure a) (Pure.pure a) Q := by
  intro w log
  refine ⟨[], ?_, law.refl w, h⟩
  rw [List.append_nil]
  rfl

theorem bind (law : p.Law R) {x : StateM (σ × List Deed) α} {y : StateM σ α}
    {f : α → StateM (σ × List Deed) β} {g : α → StateM σ β} {Q : α → List Deed → Prop}
    {S : β → List Deed → Prop} (first : Logs R x y Q)
    (next : ∀ a d, Q a d → Logs R (f a) (g a) fun b d' => S b (d ++ d')) :
    Logs R (x >>= f) (y >>= g) S := by
  intro w log
  obtain ⟨d, hx, hr, hq⟩ := first w log
  obtain ⟨d', hf, hr', hs⟩ := next (y w).1 d hq (y w).2 (log ++ d)
  refine ⟨d ++ d', ?_, law.trans hr hr', hs⟩
  show f (x (w, log)).1 (x (w, log)).2 = _
  rw [hx, hf, List.append_assoc]
  rfl

theorem map (law : p.Law R) {x : StateM (σ × List Deed) α} {y : StateM σ α} {f : α → β}
    {Q : β → List Deed → Prop} (h : Logs R x y fun a d => Q (f a) d) :
    Logs R (f <$> x) (f <$> y) Q :=
  bind law h fun _ d hq => pure law (by rw [List.append_nil]; exact hq)

theorem openChannel (law : p.Law R) (key : ChannelKey) :
    Logs R (p.traced.openChannel key) (p.openChannel key) fun a d => d = a.toList.map (.opened key) :=
  fun w _ => ⟨_, rfl, law.openChannel key w, rfl⟩

theorem receive (law : p.Law R) (key : ChannelKey) (wait : WaitPolicy) :
    Logs R (p.traced.receive key wait) (p.receive key wait)
      fun a d => d = a.toList.map (.received key) :=
  fun w _ => ⟨_, rfl, law.receive key wait w, rfl⟩

theorem readEntry (law : p.Law R) (key : ChannelKey) :
    Logs R (p.traced.readEntry key) (p.readEntry key) fun a d => d = [.read key a] :=
  fun w _ => ⟨_, rfl, law.readEntry key w, rfl⟩

theorem send (law : p.Law R) (key : ChannelKey) (m : Message) (wait : WaitPolicy) :
    Logs R (p.traced.send key m wait) (p.send key m wait)
      fun a d => d = a.toList.map (.sent key m) :=
  fun w _ => ⟨_, rfl, law.send key m wait w, rfl⟩

theorem release (law : p.Law R) (key : ChannelKey) :
    Logs R (p.traced.release key) (p.release key) fun _ d => d = [.released key] :=
  fun w _ => ⟨_, rfl, law.release key w, rfl⟩

theorem emit (law : p.Law R) (e : Event) :
    Logs R (p.traced.emit e) (p.emit e) fun _ d => d = [] :=
  fun w _ => ⟨[], rfl, law.emit e w, rfl⟩

end Logs

end ChannelRouting.Loop

/-! ## One step -/

namespace ChannelRouting.Run

open Loop (Access Deed Logs)

/-- The run that ends with an outcome. -/
def ended (r : Run) (outcome : Except LoopError LoopStats) : Run :=
  { r with loop := { r.loop with state := .stopped }, phase := .finished outcome }

/-- The run in another phase. -/
def into (r : Run) (phase : Loop.Phase) : Run := { r with phase := phase }

/-- **What a step of a run can be.** One case for each phase and each answer it can meet. -/
inductive Move (r : Run) : List Deed → Run → Prop
  | began : r.phase = .ready → Move r [] (r.into .opening)
  | opened : r.phase = .opening → Move r [.opened r.loop.source (.ok ())] (r.into .receiving)
  | unopened (e : TransportError) : r.phase = .opening →
    Move r [.opened r.loop.source (.error e)] (r.ended (.error (.open_ e)))
  | received (m : Message) : r.phase = .receiving →
    Move r [.received r.loop.source (.ok (some m))]
      (r.goOn { r.loop.stats with received := r.loop.stats.received + 1 } (.reading m))
  | drained : r.phase = .receiving →
    Move r [.received r.loop.source (.ok none), .released r.loop.source]
      (r.ended (.ok r.loop.stats))
  | receiveFailed (e : TransportError) : r.phase = .receiving →
    Move r [.received r.loop.source (.error e), .released r.loop.source]
      (r.ended (.error (.receive e)))
  | dropped (m : Message) (e : Entry) : r.phase = .reading m → (e.targets m).toList = [] →
    Move r [.read r.loop.source (.ok (some e))]
      (r.goOn { r.loop.stats with dropped := r.loop.stats.dropped + 1 } .receiving)
  | resolved (m : Message) (e : Entry) : r.phase = .reading m → (e.targets m).toList ≠ [] →
    Move r [.read r.loop.source (.ok (some e))] (r.into (.forwarding m (e.targets m).toList))
  | absent (m : Message) : r.phase = .reading m →
    Move r [.read r.loop.source (.ok none), .released r.loop.source]
      (r.ended (.error (.entryAbsent r.loop.source m)))
  | unreadable (m : Message) (e : StoreError) : r.phase = .reading m →
    Move r [.read r.loop.source (.error e), .released r.loop.source]
      (r.ended (.error (.store e m)))
  | forwarded (m : Message) : r.phase = .forwarding m [] → Move r [] (r.into .receiving)
  | turned (m : Message) (t : ChannelKey) (rest : List ChannelKey) :
    r.phase = .forwarding m (t :: rest) → Move r [] (r.into (.reaching m t rest))
  | reached (m : Message) (t : ChannelKey) (rest : List ChannelKey) :
    r.phase = .reaching m t rest → Move r [.opened t (.ok ())] (r.into (.sending m t rest))
  | unreached (m : Message) (t : ChannelKey) (rest : List ChannelKey) (e : TransportError) :
    r.phase = .reaching m t rest → Move r [.opened t (.error e)] (r.noteFailure m t rest e)
  | delivered (m : Message) (t : ChannelKey) (rest : List ChannelKey) :
    r.phase = .sending m t rest →
    Move r [.sent t m (.ok ()), .released t]
      (r.goOn { r.loop.stats with forwarded := r.loop.stats.forwarded + 1 } (.forwarding m rest))
  | refused (m : Message) (t : ChannelKey) (rest : List ChannelKey) (e : TransportError) :
    r.phase = .sending m t rest →
    Move r [.sent t m (.error e), .released t] (r.noteFailure m t rest e)

/-- A move leaves the loop with its source. -/
theorem Move.source_eq {r r' : Run} {deeds : List Deed} (move : r.Move deeds r') :
    r'.loop.source = r.loop.source := by
  cases move <;> rfl

/-- A move leaves the loop with its settings. -/
theorem Move.config_eq {r r' : Run} {deeds : List Deed} (move : r.Move deeds r') :
    r'.loop.config = r.loop.config := by
  cases move <;> rfl

/-- What follows a step: a move, or the run stays because it waits or has finished. -/
def Stepped (r : Run) (o : Option Run) (deeds : List Deed) : Prop :=
  match o with
  | none => deeds = []
  | some r' => Move r deeds r'

variable {σ : Type} {p : Access σ} {R : σ → List Deed → σ → Prop}

theorem finish_logs (law : p.Law R) (r : Run) (outcome : Except LoopError LoopStats)
    {Q : Run → List Deed → Prop} (h : Q (r.ended outcome) []) :
    Logs R (finish p.traced r outcome) (finish p r outcome) Q := by
  cases outcome with
  | ok stats =>
    refine Logs.bind law (Logs.emit law _) fun _ d hd => ?_
    subst hd
    exact Logs.pure law h
  | error e =>
    refine Logs.bind law (Logs.emit law _) fun _ d hd => ?_
    subst hd
    exact Logs.pure law h

theorem leave_logs (law : p.Law R) (r : Run) (outcome : Except LoopError LoopStats)
    {Q : Run → List Deed → Prop} (h : Q (r.ended outcome) [.released r.loop.source]) :
    Logs R (leave p.traced r outcome) (leave p r outcome) Q := by
  refine Logs.bind law (Logs.release law _) fun _ d hd => ?_
  subst hd
  exact finish_logs law r outcome h

theorem step_opening_logs (law : p.Law R) {r : Run} (hp : r.phase = .opening) :
    Logs R (step p.traced r) (step p r) (Stepped r) := by
  simp only [step, hp]
  refine Logs.bind law (Logs.openChannel law _) fun answer d hd => ?_
  subst hd
  rcases answer with _ | e | _
  · exact Logs.pure law rfl
  · exact Logs.map law (finish_logs law r _ (Move.unopened e hp))
  · exact Logs.pure law (Move.opened hp)

theorem step_receiving_logs (law : p.Law R) {r : Run} (hp : r.phase = .receiving) :
    Logs R (step p.traced r) (step p r) (Stepped r) := by
  simp only [step, hp]
  refine Logs.bind law (Logs.receive law _ _) fun answer d hd => ?_
  subst hd
  rcases answer with _ | e | _ | m
  · exact Logs.pure law rfl
  · refine Logs.map law (Logs.bind law (Logs.emit law _) fun _ d hd => ?_)
    subst hd
    exact leave_logs law r _ (Move.receiveFailed e hp)
  · exact Logs.map law (leave_logs law r _ (Move.drained hp))
  · refine Logs.map law (Logs.bind law (Logs.emit law _) fun _ d hd => ?_)
    subst hd
    exact Logs.pure law (Move.received m hp)

theorem step_reading_logs (law : p.Law R) {r : Run} {m : Message} (hp : r.phase = .reading m) :
    Logs R (step p.traced r) (step p r) (Stepped r) := by
  simp only [step, hp]
  refine Logs.bind law (Logs.readEntry law _) fun answer d hd => ?_
  subst hd
  rcases answer with e | _ | e
  · refine Logs.bind law (Logs.emit law _) fun _ d hd => Logs.map law ?_
    subst hd
    exact leave_logs law r _ (Move.unreadable m e hp)
  · refine Logs.bind law (Logs.emit law _) fun _ d hd => Logs.map law ?_
    subst hd
    exact leave_logs law r _ (Move.absent m hp)
  · refine Logs.map law ?_
    simp only [afterRead]
    by_cases unrouted : (e.targets m).isEmpty = true
    · rw [if_pos unrouted, if_pos unrouted]
      refine Logs.bind law (Logs.emit law _) fun _ d hd => ?_
      subst hd
      exact Logs.pure law (Move.dropped m e hp (List.isEmpty_iff.mp unrouted))
    · rw [if_neg unrouted, if_neg unrouted]
      exact Logs.pure law (Move.resolved m e hp (fun h => unrouted (List.isEmpty_iff.mpr h)))

theorem step_reaching_logs (law : p.Law R) {r : Run} {m : Message} {t : ChannelKey}
    {rest : List ChannelKey} (hp : r.phase = .reaching m t rest) :
    Logs R (step p.traced r) (step p r) (Stepped r) := by
  simp only [step, hp]
  refine Logs.bind law (Logs.openChannel law _) fun answer d hd => ?_
  subst hd
  rcases answer with _ | e | _
  · exact Logs.pure law rfl
  · refine Logs.bind law (Logs.emit law _) fun _ d hd => ?_
    subst hd
    exact Logs.pure law (Move.unreached m t rest e hp)
  · exact Logs.pure law (Move.reached m t rest hp)

theorem step_sending_logs (law : p.Law R) {r : Run} {m : Message} {t : ChannelKey}
    {rest : List ChannelKey} (hp : r.phase = .sending m t rest) :
    Logs R (step p.traced r) (step p r) (Stepped r) := by
  simp only [step, hp]
  refine Logs.bind law (Logs.send law _ _ _) fun answer d hd => ?_
  subst hd
  rcases answer with _ | e | _
  · exact Logs.pure law rfl
  · refine Logs.map law (Logs.bind law (Logs.emit law _) fun _ d hd => ?_)
    subst hd
    refine Logs.bind law (Logs.release law _) fun _ d hd => ?_
    subst hd
    exact Logs.pure law (Move.refused m t rest e hp)
  · refine Logs.map law (Logs.bind law (Logs.emit law _) fun _ d hd => ?_)
    subst hd
    refine Logs.bind law (Logs.release law _) fun _ d hd => ?_
    subst hd
    exact Logs.pure law (Move.delivered m t rest hp)

/-- **A step of a run is a move**, its deeds obey the law of the access, and it goes the same way
whether they are listed or not. -/
theorem step_logs (law : p.Law R) (r : Run) :
    Logs R (step p.traced r) (step p r) (Stepped r) := by
  cases hp : r.phase with
  | ready =>
    simp only [step, hp]
    refine Logs.bind law (Logs.emit law _) fun _ d hd => ?_
    subst hd
    exact Logs.pure law (Move.began hp)
  | opening => exact step_opening_logs law hp
  | receiving => exact step_receiving_logs law hp
  | reading m => exact step_reading_logs law hp
  | forwarding m targets =>
    cases targets with
    | nil =>
      simp only [step, hp]
      exact Logs.pure law (Move.forwarded m hp)
    | cons t rest =>
      simp only [step, hp]
      refine Logs.bind law (Logs.emit law _) fun _ d hd => ?_
      subst hd
      exact Logs.pure law (Move.turned m t rest hp)
  | reaching m t rest => exact step_reaching_logs law hp
  | sending m t rest => exact step_sending_logs law hp
  | finished outcome =>
    simp only [step, hp]
    exact Logs.pure law rfl

end ChannelRouting.Run
