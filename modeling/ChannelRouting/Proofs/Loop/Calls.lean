import ChannelRouting.Proofs.Loop.Traffic
import Mathlib.Logic.Relation

/-!
# Calls of a loop

A loop is run any number of times, one call after another, over any transport and any
store: opening a target and sending to it may fail in any pattern, and so may reading
the entry. While a call runs, others act between its steps (`Driven`), and between two
calls anything may happen (`Calls`).

Of a transport `Access.Fifo` says that a channel is a queue: what a loop receives is
taken from its front, and nothing else that the loop does touches it, sending to it
apart. `Access.Keeps` says that no call changes what is shown of the surroundings, such
as the table of a store, which a loop only reads. `Driven.invariant` is what holds at
every moment of a run.
-/

namespace ChannelRouting.Loop

variable {σ τ : Type}

/-- A transport whose channel `source` is a queue, `queue` being its messages. -/
structure Access.Fifo (p : Access σ) (source : ChannelKey) (queue : σ → List Message) : Prop where
  /-- A message that is received was the first. -/
  received : ∀ wait w m, (p.receive source wait w).1 = some (.ok (some m)) →
    queue w = m :: queue (p.receive source wait w).2
  /-- A receive that brings no message takes none. -/
  nothing : ∀ wait w, (∀ m, (p.receive source wait w).1 ≠ some (.ok (some m))) →
    queue (p.receive source wait w).2 = queue w
  elsewhere : ∀ key wait w, key ≠ source → queue (p.receive key wait w).2 = queue w
  sent : ∀ key m wait w, key ≠ source → queue (p.send key m wait w).2 = queue w
  /-- A send that has to wait has put nothing anywhere. -/
  waited : ∀ key m wait w, (p.send key m wait w).1 = none → queue (p.send key m wait w).2 = queue w
  opened : ∀ key w, queue (p.openChannel key w).2 = queue w
  read : ∀ key w, queue (p.readEntry key w).2 = queue w
  released : ∀ key w, queue (p.release key w).2 = queue w
  emitted : ∀ e w, queue (p.emit e w).2 = queue w

/-- The source before some deeds and after: what was received is gone from its front, as long
as nothing was sent to it. -/
def Consumes (source : ChannelKey) (queue : σ → List Message) (w : σ) (deeds : List Deed) (w' : σ) :
    Prop :=
  (∀ m a, .sent source m a ∉ deeds) → queue w = receipts source deeds ++ queue w'

theorem Access.Fifo.law {p : Access σ} {source : ChannelKey} {queue : σ → List Message}
    (fifo : p.Fifo source queue) : p.Law (Consumes source queue) where
  refl w _ := rfl
  trans {w w₁ w₂ d₁ d₂} h₁ h₂ outward := by
    rw [h₁ fun m a h => outward m a (List.mem_append_left _ h),
      h₂ fun m a h => outward m a (List.mem_append_right _ h), receipts_append, List.append_assoc]
  openChannel key w _ := by
    rw [fifo.opened]
    cases (p.openChannel key w).1 <;> rfl
  receive key wait w _ := by
    by_cases hk : key = source
    · subst hk
      cases ha : (p.receive key wait w).1 with
      | none => exact (fifo.nothing wait w fun m h => by rw [ha] at h; cases h).symm
      | some answer =>
        rcases answer with e | _ | m
        · exact (fifo.nothing wait w fun m h => by rw [ha] at h; cases h).symm
        · exact (fifo.nothing wait w fun m h => by rw [ha] at h; cases h).symm
        · rw [fifo.received wait w m ha, Option.toList_some, List.map_cons, List.map_nil,
            receipts_received_cons]
          rfl
    · rw [fifo.elsewhere key wait w hk, receipts_received_of_ne hk]
      rfl
  readEntry key w _ := (fifo.read key w).symm
  send key m wait w outward := by
    cases ha : (p.send key m wait w).1 with
    | none => exact (fifo.waited key m wait w ha).symm
    | some answer =>
      have hk : key ≠ source := by
        rintro rfl
        exact outward m answer (by rw [ha]; exact List.mem_singleton_self _)
      rw [fifo.sent key m wait w hk]
      rfl
  release key w _ := (fifo.released key w).symm
  emit e w _ := (fifo.emitted e w).symm

/-- An access whose calls leave alone what `view` shows of the surroundings. -/
structure Access.Keeps (p : Access σ) (view : σ → τ) : Prop where
  opened : ∀ key w, view (p.openChannel key w).2 = view w
  received : ∀ key wait w, view (p.receive key wait w).2 = view w
  read : ∀ key w, view (p.readEntry key w).2 = view w
  sent : ∀ key m wait w, view (p.send key m wait w).2 = view w
  released : ∀ key w, view (p.release key w).2 = view w
  emitted : ∀ e w, view (p.emit e w).2 = view w

/-- No deed of a loop takes part in the changes. -/
theorem Access.Keeps.law {p : Access σ} {view : σ → τ} (keeps : p.Keeps view)
    (changes : τ → τ → Prop) :
    p.Law fun w _ w' => Relation.ReflTransGen changes (view w) (view w') where
  refl _ := .refl
  trans h₁ h₂ := h₁.trans h₂
  openChannel key w := keeps.opened key w ▸ .refl
  receive key wait w := keeps.received key wait w ▸ .refl
  readEntry key w := keeps.read key w ▸ .refl
  send key m wait w := keeps.sent key m wait w ▸ .refl
  release key w := keeps.released key w ▸ .refl
  emit e w := keeps.emitted e w ▸ .refl

/-- An access over which opening some channels and sending to some fails. -/
def Access.failing (p : Access σ) (unopened refused : ChannelKey → Option TransportError) : Access σ :=
  { p with
    openChannel := fun key =>
      match unopened key with
      | some e => pure (some (.error e))
      | none => p.openChannel key
    send := fun key m wait =>
      match refused key with
      | some e => pure (some (.error e))
      | none => p.send key m wait }

/-- Calls that fail leave the source alone. -/
theorem Access.Fifo.failing {p : Access σ} {source : ChannelKey} {queue : σ → List Message}
    (fifo : p.Fifo source queue) (unopened refused : ChannelKey → Option TransportError) :
    (p.failing unopened refused).Fifo source queue where
  received := fifo.received
  nothing := fifo.nothing
  elsewhere := fifo.elsewhere
  sent key m wait w hk := by
    simp only [Access.failing]
    cases refused key with
    | some e => rfl
    | none => exact fifo.sent key m wait w hk
  waited key m wait w h := by
    cases hr : refused key with
    | some e =>
      simp only [Access.failing, hr]
      rfl
    | none =>
      simp only [Access.failing, hr] at h ⊢
      exact fifo.waited key m wait w h
  opened key w := by
    simp only [Access.failing]
    cases unopened key with
    | some e => rfl
    | none => exact fifo.opened key w
  read := fifo.read
  released := fifo.released
  emitted := fifo.emitted

/-- An access over which reading the entry fails in some states of the surroundings. -/
def Access.outage (p : Access σ) (down : σ → Option StoreError) : Access σ :=
  { p with
    readEntry := fun key w =>
      match down w with
      | some e => (.error e, w)
      | none => p.readEntry key w }

theorem Access.Fifo.outage {p : Access σ} {source : ChannelKey} {queue : σ → List Message}
    (fifo : p.Fifo source queue) (down : σ → Option StoreError) :
    (p.outage down).Fifo source queue where
  received := fifo.received
  nothing := fifo.nothing
  elsewhere := fifo.elsewhere
  sent := fifo.sent
  waited := fifo.waited
  opened := fifo.opened
  read key w := by
    simp only [Access.outage]
    cases down w with
    | some e => rfl
    | none => exact fifo.read key w
  released := fifo.released
  emitted := fifo.emitted

theorem Access.Keeps.outage {p : Access σ} {view : σ → τ} (keeps : p.Keeps view)
    (down : σ → Option StoreError) : (p.outage down).Keeps view where
  opened := keeps.opened
  received := keeps.received
  read key w := by
    simp only [Access.outage]
    cases down w with
    | some e => rfl
    | none => exact keeps.read key w
  sent := keeps.sent
  released := keeps.released
  emitted := keeps.emitted

/-! ## Calls -/

/-- **A run among others.** It began as `r₀` with the surroundings `w₀`; between its steps the
others change the surroundings. What it has done so far is listed. -/
inductive Driven (p : Access σ) (others : σ → σ → Prop) (r₀ : Run) (w₀ : σ) :
    Run → σ → List Deed → Prop
  | start : Driven p others r₀ w₀ r₀ w₀ []
  | step {r r' : Run} {w w' : σ} {deeds deeds' : List Deed} : Driven p others r₀ w₀ r w deeds →
    Run.step p.traced r (w, deeds) = (some r', (w', deeds')) → Driven p others r₀ w₀ r' w' deeds'
  /-- The run has to wait. -/
  | wait {r : Run} {w w' : σ} {deeds deeds' : List Deed} : Driven p others r₀ w₀ r w deeds →
    Run.step p.traced r (w, deeds) = (none, (w', deeds')) → Driven p others r₀ w₀ r w' deeds'
  | others {r : Run} {w w' : σ} {deeds : List Deed} : Driven p others r₀ w₀ r w deeds →
    others w w' → Driven p others r₀ w₀ r w' deeds

/-- A call of a loop that has returned. -/
structure Returned (σ : Type) where
  /-- The loop as the call finds it. -/
  found : Loop
  before : σ
  deeds : List Deed
  outcome : Except LoopError LoopStats
  after : σ
  /-- The loop as the call leaves it. -/
  left : Loop

/-- **Calls of one loop**, one after another. Whatever happens between two calls, the next finds
the loop as the one before it has left it. -/
inductive Calls (p : Access σ) (others : σ → σ → Prop) : Loop → List (Returned σ) → Loop → Prop
  | none (l : Loop) : Calls p others l [] l
  | call {l : Loop} {thread : String} {w w' : σ} {r : Run} {deeds : List Deed}
    {outcome : Except LoopError LoopStats} {rest : List (Returned σ)} {l' : Loop} :
    Driven p others (l.start thread) w r w' deeds → r.outcome? = some outcome →
    Calls p others r.loop rest l' →
    Calls p others l (⟨l, w, deeds, outcome, w', r.loop⟩ :: rest) l'

/-- A run that has the surroundings to itself is one of them. -/
theorem Driven.advance {p : Access σ} {others : σ → σ → Prop} {r₀ : Run} {w₀ : σ} {r : Run} {w : σ}
    {deeds : List Deed} (h : Driven p others r₀ w₀ r w deeds) (fuel : Nat) :
    Driven p others r₀ w₀ (Run.advance p.traced fuel r (w, deeds)).1
      (Run.advance p.traced fuel r (w, deeds)).2.1
      (Run.advance p.traced fuel r (w, deeds)).2.2 := by
  induction fuel generalizing r w deeds with
  | zero => exact h
  | succ fuel ih =>
    simp only [Run.advance, bind, StateT.bind]
    cases hs : Run.step p.traced r (w, deeds) with
    | mk o s =>
      cases o with
      | none => exact h.wait hs
      | some r' => exact ih (h.step hs)

/-- What a traced step is: a move, and it obeys the law. -/
theorem moved {p : Access σ} {R : σ → List Deed → σ → Prop} (law : p.Law R) {r : Run} {w w' : σ}
    {deeds deeds' : List Deed} {o : Option Run}
    (hs : Run.step p.traced r (w, deeds) = (o, (w', deeds'))) :
    ∃ new, deeds' = deeds ++ new ∧ R w new w' ∧ r.Stepped o new := by
  obtain ⟨new, hx, hr, hq⟩ := Run.step_logs law r w deeds
  rw [hs] at hx
  cases hx
  exact ⟨new, rfl, hr, hq⟩

/-- **The invariant of a run among others.** -/
theorem Driven.invariant {p : Access σ} {others : σ → σ → Prop} {R : σ → List Deed → σ → Prop}
    (law : p.Law R) (apart : ∀ w w', others w w' → R w [] w') {l : Loop} {thread : String} {w₀ : σ}
    {r : Run} {w : σ} {deeds : List Deed} (h : Driven p others (l.start thread) w₀ r w deeds) :
    Trail l r deeds ∧ R w₀ deeds w := by
  induction h with
  | start => exact ⟨trail_start l thread, law.refl w₀⟩
  | step _ hs ih =>
    obtain ⟨new, rfl, hr, move⟩ := moved law hs
    exact ⟨ih.1.move move, law.trans ih.2 hr⟩
  | wait _ hs ih =>
    obtain ⟨new, rfl, hr, idle⟩ := moved law hs
    cases idle
    exact ⟨by rw [List.append_nil]; exact ih.1, law.trans ih.2 hr⟩
  | others _ ho ih =>
    have := law.trans ih.2 (apart _ _ ho)
    rw [List.append_nil] at this
    exact ⟨ih.1, this⟩

end ChannelRouting.Loop
