/-!
# Computations that do the same

Two computations over one state do the same (`Pairs`) if, wherever they begin, both leave the same
state and their answers are related. So two runs can be compared step by step, although the one
answers otherwise than the other: `Pairs.bind` asks that what follows does the same on related
answers only.
-/

namespace ChannelRouting.Loop

variable {σ α β γ δ : Type}

/-- **Two computations that do the same**, with answers that are related. -/
def Pairs (x : StateM σ α) (y : StateM σ β) (Q : α → β → Prop) : Prop :=
  ∀ w, (x w).2 = (y w).2 ∧ Q (x w).1 (y w).1

namespace Pairs

variable {x : StateM σ α} {y : StateM σ β} {Q : α → β → Prop}

theorem pure {a : α} {b : β} (h : Q a b) : Pairs (σ := σ) (Pure.pure a) (Pure.pure b) Q :=
  fun _ => ⟨rfl, h⟩

theorem bind {f : α → StateM σ γ} {g : β → StateM σ δ} {S : γ → δ → Prop} (first : Pairs x y Q)
    (next : ∀ a b, Q a b → Pairs (f a) (g b) S) : Pairs (x >>= f) (y >>= g) S := by
  intro w
  obtain ⟨state, answers⟩ := first w
  have after := next _ _ answers (x w).2
  show (f (x w).1 (x w).2).2 = (g (y w).1 (y w).2).2 ∧ S (f (x w).1 (x w).2).1 (g (y w).1 (y w).2).1
  rwa [← state]

/-- Both begin with the same. -/
theorem same_bind {f : α → StateM σ γ} {g : α → StateM σ δ} {S : γ → δ → Prop}
    (next : ∀ a, Pairs (f a) (g a) S) : Pairs (x >>= f) (x >>= g) S :=
  fun w => next (x w).1 (x w).2

/-- Where the one goes, the other goes too. -/
theorem answer (h : Pairs x y Q) {w w' : σ} {a : α} (ran : x w = (a, w')) :
    ∃ b, y w = (b, w') ∧ Q a b := by
  obtain ⟨state, answers⟩ := h w
  rw [ran] at state answers
  exact ⟨(y w).1, Prod.ext rfl state.symm, answers⟩

/-- Computations that do not have to wait. -/
theorem some (h : Pairs x y Q) : Pairs (Option.some <$> x) (Option.some <$> y) (Option.Rel Q) :=
  fun w => ⟨(h w).1, .some (h w).2⟩

end Pairs

end ChannelRouting.Loop
