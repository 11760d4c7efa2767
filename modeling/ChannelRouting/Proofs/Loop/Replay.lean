import ChannelRouting.Proofs.Loop.Calls

/-!
# Replaying what a run did

The deeds of a run that has its surroundings to itself can be played back: made one after
another, without the loop, they get the answers that are listed and leave the surroundings
as the run has left them (`Driven.played`). Playing back is deterministic, one deed at a
time (`Deed.Happens`), so two runs can be compared by their deeds alone.

A deed does not say how long it waited. All deeds of one run waited as the settings of its
loop say, and `Access.fixed` is the access whose calls wait so, whatever they are asked for.
-/

namespace ChannelRouting.Loop

variable {σ : Type} {p : Access σ} {config : LoopConfig}

/-- A call that answers as listed, and what it makes of the surroundings. -/
def Deed.Happens (p : Access σ) (config : LoopConfig) (w : σ) (d : Deed) (w' : σ) : Prop :=
  match d with
  | .opened key answer => p.openChannel key w = (some answer, w')
  | .received key answer => p.receive key config.receiveWait w = (some answer, w')
  | .read key answer => p.readEntry key w = (answer, w')
  | .sent key m answer => p.send key m config.sendWait w = (some answer, w')
  | .released key => p.release key w = ((), w')

/-- **Deeds played back**, one after another. -/
def Played (p : Access σ) (config : LoopConfig) (w : σ) : List Deed → σ → Prop
  | [], w' => w' = w
  | d :: rest, w' => ∃ v, d.Happens p config w v ∧ Played p config v rest w'

theorem played_append {w w' : σ} {d₁ d₂ : List Deed} :
    Played p config w (d₁ ++ d₂) w' ↔
      ∃ v, Played p config w d₁ v ∧ Played p config v d₂ w' := by
  induction d₁ generalizing w with
  | nil => exact ⟨fun h => ⟨w, rfl, h⟩, fun ⟨_, hv, h⟩ => hv ▸ h⟩
  | cons d rest ih =>
    constructor
    · rintro ⟨u, hd, h⟩
      obtain ⟨v, h₁, h₂⟩ := ih.mp h
      exact ⟨v, ⟨u, hd, h₁⟩, h₂⟩
    · rintro ⟨v, ⟨u, hd, h₁⟩, h₂⟩
      exact ⟨u, hd, ih.mpr ⟨v, h₁, h₂⟩⟩

theorem played_singleton {w w' : σ} {d : Deed} :
    Played p config w [d] w' ↔ d.Happens p config w w' :=
  ⟨fun ⟨_, hd, h⟩ => h ▸ hd, fun hd => ⟨w', hd, rfl⟩⟩

/-! ## A run is played back -/

/-- An access whose calls wait as some settings say. -/
def Access.fixed (p : Access σ) (config : LoopConfig) : Access σ :=
  { p with
    receive := fun key _ => p.receive key config.receiveWait
    send := fun key m _ => p.send key m config.sendWait }

/-- A run waits as the settings of its loop say. -/
theorem step_fixed (p : Access σ) (r : Run) :
    Run.step (p.fixed r.loop.config) r = Run.step p r := by
  unfold Run.step
  cases r.phase with
  | forwarding m targets => cases targets <;> rfl
  | _ => rfl

/-- An access over which what a run does not list changes nothing: events, and calls that have to
wait. -/
structure Access.Steady (p : Access σ) : Prop where
  emitted : ∀ e w, (p.emit e w).2 = w
  unopened : ∀ key w, (p.openChannel key w).1 = none → (p.openChannel key w).2 = w
  unreceived : ∀ key wait w, (p.receive key wait w).1 = none → (p.receive key wait w).2 = w
  unsent : ∀ key m wait w, (p.send key m wait w).1 = none → (p.send key m wait w).2 = w

/-- A call that lists its answer is played back. -/
theorem played_answer {α : Type} {deed : α → Deed} {x : Option α × σ} {w : σ}
    (happens : ∀ a, x = (some a, x.2) → (deed a).Happens p config w x.2)
    (waits : x.1 = none → x.2 = w) : Played p config w (x.1.toList.map deed) x.2 := by
  rcases x with ⟨_ | a, v⟩
  · exact waits rfl
  · exact ⟨v, happens a rfl, rfl⟩

/-- **Playing back is a law of an access** whose calls wait as the settings say. -/
theorem Access.Steady.law (steady : p.Steady) (config : LoopConfig) :
    (p.fixed config).Law (Played p config) where
  refl _ := rfl
  trans h₁ h₂ := played_append.mpr ⟨_, h₁, h₂⟩
  openChannel key w := played_answer (fun _ h => h) (steady.unopened key w)
  receive key _ w := played_answer (fun _ h => h) (steady.unreceived key config.receiveWait w)
  readEntry _ _ := ⟨_, rfl, rfl⟩
  send key m _ w := played_answer (fun _ h => h) (steady.unsent key m config.sendWait w)
  release _ _ := ⟨_, rfl, rfl⟩
  emit e w := steady.emitted e w

/-- **A run that has its surroundings to itself** is on its trail, and its deeds are played back. -/
theorem Driven.played (steady : p.Steady) {l : Loop} {thread : String} {w₀ : σ} {r : Run} {w : σ}
    {deeds : List Deed} (h : Driven p (fun _ _ => False) (l.start thread) w₀ r w deeds) :
    Trail l r deeds ∧ Played p l.config w₀ deeds w := by
  have moved_fixed {r : Run} {v v' : σ} {log log' : List Deed} {o : Option Run} (trail : Trail l r log)
      (hs : Run.step p.traced r (v, log) = (o, (v', log'))) :
      ∃ new, log' = log ++ new ∧ Played p l.config v new v' ∧ r.Stepped o new := by
    refine moved (steady.law l.config) ?_
    rw [← hs, ← step_fixed p.traced r, trail.config]
    rfl
  induction h with
  | start => exact ⟨trail_start l thread, rfl⟩
  | step _ hs ih =>
    obtain ⟨new, rfl, played, move⟩ := moved_fixed ih.1 hs
    exact ⟨ih.1.move move, played_append.mpr ⟨_, ih.2, played⟩⟩
  | wait _ hs ih =>
    obtain ⟨new, rfl, played, idle⟩ := moved_fixed ih.1 hs
    cases idle
    exact ⟨by rw [List.append_nil]; exact ih.1, played_append.mpr ⟨_, ih.2, played⟩⟩
  | others _ ho _ => exact ho.elim

end ChannelRouting.Loop
