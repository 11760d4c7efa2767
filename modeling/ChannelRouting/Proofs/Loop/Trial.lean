import ChannelRouting.Proofs.Loop.Replay
import ChannelRouting.Proofs.Transport.Call
import Mathlib.Logic.Function.Basic

/-!
# Trials of a loop

A trial is a store of any kind with a transport of one process, on which opening a channel
or sending to it fails on whatever occasions somebody chooses: `faults` says so for each
channel, by how often the channel was opened or sent to before. A call that fails so leaves
the channel as it is.

`Beside` is what calls on one channel leave alone. `Alike` compares two states of one trial
under different faults: they agree on the store, and on every channel but those whose calls
may fail in one and not in the other. Calls on the channels on which they agree give the same
answers in both and keep them alike.
-/

namespace ChannelRouting.Loop

variable {τ : Type}

/-- A store and a transport, with how often each channel was opened or sent to. -/
structure Trial (τ : Type) where
  store : τ
  transport : Transport
  calls : ChannelKey → Nat := fun _ => 0

/-- When calls on a channel fail: by the number of those that went before. -/
abbrev Faults := ChannelKey → Nat → Option TransportError

/-- One more call on a channel. -/
def Trial.called (w : Trial τ) (key : ChannelKey) : Trial τ :=
  { w with calls := Function.update w.calls key (w.calls key + 1) }

/-- **A trial as a loop sees it** that nobody else shares it with. A send that never returns is no
call that is over. -/
def Access.trial (read : ChannelKey → StateM τ (Except StoreError (Option Entry)))
    (faults : Faults) : Access (Trial τ) where
  openChannel key w :=
    match faults key (w.calls key) with
    | some e => (some (.error e), w.called key)
    | none => (some (.ok ()), { w.called key with transport := (w.transport.open_ key).2 })
  receive key wait w :=
    let (answer, t) := w.transport.receiveAlone key wait
    (answer.map .ok, { w with transport := t })
  readEntry key w :=
    let (answer, s) := read key w.store
    (answer, { w with store := s })
  send key m wait w :=
    match faults key (w.calls key) with
    | some e => (some (.error e), w.called key)
    | none =>
      match w.transport.sendAlone key m wait with
      | (some answer, t) => (some answer, { w.called key with transport := t })
      | (none, _) => (none, w)
  release key w := ((), { w with transport := (w.transport.release { key := key }).2 })
  emit _ w := ((), w)

namespace Trial

variable {read : ChannelKey → StateM τ (Except StoreError (Option Entry))}
  {faults faults₁ faults₂ : Faults} {config : LoopConfig}

theorem calls_called_self (w : Trial τ) (key : ChannelKey) :
    (w.called key).calls key = w.calls key + 1 := Function.update_self ..

theorem calls_called_of_ne (w : Trial τ) {key k : ChannelKey} (h : k ≠ key) :
    (w.called key).calls k = w.calls k := Function.update_of_ne h ..

theorem steady_trial (read : ChannelKey → StateM τ (Except StoreError (Option Entry)))
    (faults : Faults) : (Access.trial read faults).Steady where
  emitted _ _ := rfl
  unopened key w h := by
    simp only [Access.trial] at h
    cases hf : faults key (w.calls key) with
    | some e =>
      rw [hf] at h
      cases h
    | none =>
      rw [hf] at h
      cases h
  unreceived key wait w h := by
    show ({ w with transport := (w.transport.receiveAlone key wait).2 } : Trial τ) = w
    rw [Transport.receiveAlone_unanswered (Option.map_eq_none_iff.mp h)]
  unsent key m wait w h := by
    simp only [Access.trial] at h ⊢
    cases hf : faults key (w.calls key) with
    | some e =>
      rw [hf] at h
      cases h
    | none =>
      rw [hf] at h
      rcases hs : w.transport.sendAlone key m wait with ⟨_ | answer, t⟩
      · rfl
      · rw [hs] at h
        cases h

/-! ## What calls on one channel leave alone -/

/-- **Calls on one channel** leave the others alone, and the channel too if it is closed. -/
structure Beside (key : ChannelKey) (w w' : Trial τ) : Prop where
  store : w'.store = w.store
  capacity : w'.transport.capacity = w.transport.capacity
  reach : w'.transport.reach = w.transport.reach
  queue : ∀ k, k ≠ key ∨ (w.transport.queue k).closed = true →
    w'.transport.queue k = w.transport.queue k
  calls : ∀ k, k ≠ key → w'.calls k = w.calls k

namespace Beside

variable {key : ChannelKey} {u v w w' : Trial τ}

theorem trans (h : Beside key u v) (h' : Beside key v w) : Beside key u w where
  store := h'.store.trans h.store
  capacity := h'.capacity.trans h.capacity
  reach := h'.reach.trans h.reach
  queue k hk := by
    have first := h.queue k hk
    rw [← first] at hk
    exact (h'.queue k hk).trans first
  calls k hk := (h'.calls k hk).trans (h.calls k hk)

/-- A call on a channel that changes neither capacity nor queues. -/
theorem called (key : ChannelKey) (w : Trial τ) : Beside key w (w.called key) :=
  ⟨rfl, rfl, rfl, fun _ _ => rfl, fun _ hk => calls_called_of_ne w hk⟩

theorem opened {answer : Except TransportError Unit}
    (h : (Access.trial read faults).openChannel key w = (some answer, w')) : Beside key w w' := by
  simp only [Access.trial] at h
  cases hf : faults key (w.calls key) with
  | some e =>
    rw [hf] at h
    cases h
    exact called key w
  | none =>
    rw [hf] at h
    cases h
    exact ⟨rfl, rfl, rfl, fun _ _ => rfl, fun _ hk => calls_called_of_ne w hk⟩

theorem sent {m : Message} {wait : WaitPolicy} {answer : Except TransportError Unit}
    (h : (Access.trial read faults).send key m wait w = (some answer, w')) : Beside key w w' := by
  simp only [Access.trial] at h
  cases hf : faults key (w.calls key) with
  | some e =>
    rw [hf] at h
    cases h
    exact called key w
  | none =>
    rw [hf] at h
    rcases hs : w.transport.sendAlone key m wait with ⟨_ | result, t⟩
    · rw [hs] at h
      cases h
    · rw [hs] at h
      cases h
      have handled := Transport.handled_sendAlone hs
      refine ⟨rfl, handled.capacity_eq, handled.reach_eq, fun k hk => ?_, fun _ hk => calls_called_of_ne w hk⟩
      rcases hk with hk | closed
      · exact handled.queue_of_ne hk
      · -- A closed channel accepts nothing.
        by_cases same : k = key
        · subst same
          have kept := Transport.sendAlone_of_closed closed m wait
          rw [hs] at kept
          exact congrArg (Transport.queue · k) kept
        · exact handled.queue_of_ne same

theorem released (h : (Access.trial read faults).release key w = ((), w')) : Beside key w w' := by
  cases h
  have handled := Transport.handled_release w.transport { key := key }
  generalize (w.transport.release { key := key }).2 = t at handled ⊢
  cases handled
  exact ⟨rfl, rfl, rfl, fun _ _ => rfl, fun _ _ => rfl⟩

/-- **An attempt at a target** is calls on it. -/
theorem attempt {m : Message} (a : Attempt)
    (h : Played (Access.trial read faults) config w (a.deeds m) w') : Beside a.target w w' := by
  cases a with
  | unopened t e => exact opened (played_singleton.mp h)
  | refused t e =>
    obtain ⟨u, ho, v, hs, h⟩ := h
    exact ((opened ho).trans (sent hs)).trans (released (played_singleton.mp h))
  | delivered t =>
    obtain ⟨u, ho, v, hs, h⟩ := h
    exact ((opened ho).trans (sent hs)).trans (released (played_singleton.mp h))

end Beside

/-- No deed of a loop opens a closed channel. -/
theorem closed_happens {d : Deed} {w w' : Trial τ} {k : ChannelKey}
    (h : d.Happens (Access.trial read faults) config w w')
    (closed : (w.transport.queue k).closed = true) : (w'.transport.queue k).closed = true := by
  cases d with
  | opened key answer => exact ((Beside.opened h).queue k (.inr closed)).symm ▸ closed
  | sent key m answer => exact ((Beside.sent h).queue k (.inr closed)).symm ▸ closed
  | released key => exact ((Beside.released h).queue k (.inr closed)).symm ▸ closed
  | read key answer =>
    cases congrArg Prod.snd h
    exact closed
  | received key answer =>
    obtain ⟨result, answered, -⟩ := Option.map_eq_some_iff.mp (congrArg Prod.fst h)
    cases congrArg Prod.snd h
    exact ((Transport.handled_receiveAlone (Prod.ext answered rfl)).closed_iff k).mpr (.inl closed)

/-- **A closed channel stays closed**, whatever a loop does. -/
theorem closed_played {deeds : List Deed} {w w' : Trial τ} {k : ChannelKey}
    (h : Played (Access.trial read faults) config w deeds w')
    (closed : (w.transport.queue k).closed = true) : (w'.transport.queue k).closed = true := by
  induction deeds generalizing w with
  | nil =>
    cases h
    exact closed
  | cons d rest ih =>
    obtain ⟨v, first, later⟩ := h
    exact ih later (closed_happens first closed)

/-! ## Two trials -/

/-- **Two states of a trial that are alike**: they agree on all but the channels marked by `F`, and
on the source. -/
structure Alike (F : ChannelKey → Bool) (source : ChannelKey) (w₁ w₂ : Trial τ) : Prop where
  store : w₁.store = w₂.store
  transport : w₁.transport.Agree (fun k => F k = false ∨ k = source) w₂.transport
  calls : ∀ k, F k = false → w₁.calls k = w₂.calls k

namespace Alike

variable {F : ChannelKey → Bool} {source key : ChannelKey} {w₁ w₂ v₁ v₂ : Trial τ}

theorem refl (F : ChannelKey → Bool) (source : ChannelKey) (w : Trial τ) : Alike F source w w :=
  ⟨rfl, .refl _ w.transport, fun _ _ => rfl⟩

theorem called (h : Alike F source w₁ w₂) (key : ChannelKey) :
    Alike F source (w₁.called key) (w₂.called key) := by
  refine ⟨h.store, h.transport, fun k hk => ?_⟩
  by_cases same : k = key
  · subst same
    rw [calls_called_self, calls_called_self, h.calls k hk]
  · rw [calls_called_of_ne w₁ same, calls_called_of_ne w₂ same]
    exact h.calls k hk

/-- Calls on a marked channel keep two states alike, whether they fail or not. -/
theorem beside (h : Alike F source w₁ w₂) (marked : F key = true)
    (shielded : (w₁.transport.queue source).closed = true ∨ key ≠ source)
    (h₁ : Beside key w₁ v₁) (h₂ : Beside key w₂ v₂) : Alike F source v₁ v₂ where
  store := h₁.store.trans (h.store.trans h₂.store.symm)
  transport := by
    refine ⟨h₁.capacity.trans (h.transport.capacity.trans h₂.capacity.symm),
      h₁.reach.trans (h.transport.reach.trans h₂.reach.symm), fun k hk => ?_⟩
    have same := h.transport.queue k hk
    have kept : k ≠ key ∨ (w₁.transport.queue k).closed = true := by
      rcases hk with unmarked | rfl
      · left
        rintro rfl
        rw [unmarked] at marked
        cases marked
      · exact shielded.symm.imp_left Ne.symm
    rw [h₁.queue k kept, same, h₂.queue k (same ▸ kept)]
  calls k hk := by
    have other : k ≠ key := by
      rintro rfl
      rw [hk] at marked
      cases marked
    rw [h₁.calls k other, h₂.calls k other]
    exact h.calls k hk

variable (outside : ∀ k n, F k = false → faults₁ k n = faults₂ k n)

include outside in
theorem opened (h : Alike F source w₁ w₂) (unmarked : F key = false)
    {a₁ a₂ : Except TransportError Unit}
    (h₁ : (Access.trial read faults₁).openChannel key w₁ = (some a₁, v₁))
    (h₂ : (Access.trial read faults₂).openChannel key w₂ = (some a₂, v₂)) :
    a₁ = a₂ ∧ Alike F source v₁ v₂ := by
  simp only [Access.trial] at h₁ h₂
  rw [outside key _ unmarked, h.calls key unmarked] at h₁
  cases hf : faults₂ key (w₂.calls key) with
  | some e =>
    rw [hf] at h₁ h₂
    cases h₁
    cases h₂
    exact ⟨rfl, h.called key⟩
  | none =>
    rw [hf] at h₁ h₂
    cases h₁
    cases h₂
    have calls := h.called key
    exact ⟨rfl, calls.store, h.transport.withHandles _ _, calls.calls⟩

include outside in
theorem sent (h : Alike F source w₁ w₂) (unmarked : F key = false) {m : Message}
    {wait : WaitPolicy} {a₁ a₂ : Except TransportError Unit}
    (h₁ : (Access.trial read faults₁).send key m wait w₁ = (some a₁, v₁))
    (h₂ : (Access.trial read faults₂).send key m wait w₂ = (some a₂, v₂)) :
    a₁ = a₂ ∧ Alike F source v₁ v₂ := by
  simp only [Access.trial] at h₁ h₂
  rw [outside key _ unmarked, h.calls key unmarked] at h₁
  cases hf : faults₂ key (w₂.calls key) with
  | some e =>
    rw [hf] at h₁ h₂
    cases h₁
    cases h₂
    exact ⟨rfl, h.called key⟩
  | none =>
    rw [hf] at h₁ h₂
    obtain ⟨same, agree⟩ := h.transport.sendAlone (.inl unmarked) m wait
    rcases hs₁ : w₁.transport.sendAlone key m wait with ⟨_ | r₁, t₁⟩
    · rw [hs₁] at h₁
      cases h₁
    · rcases hs₂ : w₂.transport.sendAlone key m wait with ⟨_ | r₂, t₂⟩
      · rw [hs₂] at h₂
        cases h₂
      · rw [hs₁, hs₂] at same agree
        rw [hs₁] at h₁
        rw [hs₂] at h₂
        cases h₁
        cases h₂
        cases same
        have calls := h.called key
        exact ⟨rfl, calls.store, agree, calls.calls⟩

theorem received (h : Alike F source w₁ w₂) {wait : WaitPolicy}
    {a₁ a₂ : Except TransportError (Option Message)}
    (h₁ : (Access.trial read faults₁).receive source wait w₁ = (some a₁, v₁))
    (h₂ : (Access.trial read faults₂).receive source wait w₂ = (some a₂, v₂)) :
    a₁ = a₂ ∧ Alike F source v₁ v₂ := by
  obtain ⟨same, agree⟩ := h.transport.receiveAlone (.inr rfl) wait
  have answers₁ : (w₁.transport.receiveAlone source wait).1.map Except.ok = some a₁ :=
    congrArg Prod.fst h₁
  have answers₂ : (w₂.transport.receiveAlone source wait).1.map Except.ok = some a₂ :=
    congrArg Prod.fst h₂
  cases congrArg Prod.snd h₁
  cases congrArg Prod.snd h₂
  refine ⟨?_, h.store, agree, h.calls⟩
  rw [same] at answers₁
  exact Option.some.inj (answers₁.symm.trans answers₂)

theorem readEntry (h : Alike F source w₁ w₂) {a₁ a₂ : Except StoreError (Option Entry)}
    (h₁ : (Access.trial read faults₁).readEntry key w₁ = (a₁, v₁))
    (h₂ : (Access.trial read faults₂).readEntry key w₂ = (a₂, v₂)) :
    a₁ = a₂ ∧ Alike F source v₁ v₂ := by
  obtain ⟨rfl, rfl⟩ := Prod.mk.inj h₁
  obtain ⟨rfl, rfl⟩ := Prod.mk.inj h₂
  exact ⟨congrArg (fun s => (read key s).1) h.store,
    congrArg (fun s => (read key s).2) h.store, h.transport, h.calls⟩

theorem released (h : Alike F source w₁ w₂)
    (h₁ : (Access.trial read faults₁).release key w₁ = ((), v₁))
    (h₂ : (Access.trial read faults₂).release key w₂ = ((), v₂)) : Alike F source v₁ v₂ := by
  cases h₁
  cases h₂
  refine ⟨h.store, ?_, h.calls⟩
  have handled₁ := Transport.handled_release w₁.transport { key := key }
  have handled₂ := Transport.handled_release w₂.transport { key := key }
  generalize (w₁.transport.release { key := key }).2 = t₁ at handled₁ ⊢
  generalize (w₂.transport.release { key := key }).2 = t₂ at handled₂ ⊢
  cases handled₁
  cases handled₂
  exact h.transport.withHandles _ _

end Alike

end Trial

end ChannelRouting.Loop
