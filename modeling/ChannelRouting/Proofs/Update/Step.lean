import ChannelRouting.Store.Update

/-!
# The steps of an update, written out

An update talks to its table through an access, so a step is a function of what the
access answers. The equations here are that function with the plumbing of the state
taken out: one for a load, one for a swap, one for what follows a refused swap.
Proofs about updates start from these and leave `Update.step` closed.
-/

namespace ChannelRouting.Update

variable {σ : Type}

/-- What a load leads to. -/
def afterLoad (u : Update) (attempt : Nat) : Except StoreError (Option Versioned) → Phase
  | .error e => .finished (.error e)
  | .ok none => .finished (.ok none)
  | .ok (some v) => .swapping attempt v.version (u.mutation.apply v.entry)

/-- What a refused swap leads to: another attempt while some are left. -/
def refused (u : Update) (attempt : Nat) : Phase :=
  if attempt < u.attempts then .loading (attempt + 1)
  else .finished (.error (.contention u.key u.attempts))

theorem step_loading (p : Access σ) (u : Update) (attempt : Nat) (s : σ) :
    step p u (.loading attempt) s = (afterLoad u attempt (p.load u.key s).1, (p.load u.key s).2) := by
  simp only [step, bind, StateT.bind]
  cases p.load u.key s with
  | mk r s' =>
    cases r with
    | error e => rfl
    | ok found => cases found <;> rfl

theorem step_swapping (p : Access σ) (u : Update) (attempt version : Nat) (next : Entry) (s : σ) :
    step p u (.swapping attempt version next) s =
      match p.swap u.key version next s with
      | (.error e, s') => (.finished (.error e), s')
      | (.ok true, s') => (.finished (.ok (some next)), s')
      | (.ok false, s') => afterRefusal p u attempt s' := by
  simp only [step, bind, StateT.bind]
  cases p.swap u.key version next s with
  | mk r s' =>
    cases r with
    | error e => rfl
    | ok done => cases done <;> rfl

theorem step_finished (p : Access σ) (u : Update) (r : Except StoreError (Option Entry)) (s : σ) :
    step p u (.finished r) s = (.finished r, s) := rfl

theorem runFrom_finished (p : Access σ) (u : Update) (fuel : Nat)
    (r : Except StoreError (Option Entry)) (s : σ) : runFrom p u fuel (.finished r) s = (r, s) := by
  cases fuel <;> rfl

theorem runFrom_loading (p : Access σ) (u : Update) (fuel attempt : Nat) (s : σ) :
    runFrom p u (fuel + 1) (.loading attempt) s =
      runFrom p u fuel (step p u (.loading attempt) s).1 (step p u (.loading attempt) s).2 := rfl

theorem runFrom_swapping (p : Access σ) (u : Update) (fuel attempt version : Nat) (next : Entry)
    (s : σ) :
    runFrom p u (fuel + 1) (.swapping attempt version next) s =
      runFrom p u fuel (step p u (.swapping attempt version next) s).1
        (step p u (.swapping attempt version next) s).2 := rfl

/-- An access whose table nobody changes between attempts and that tells nobody of them. -/
structure Access.Silent (p : Access σ) : Prop where
  emit : ∀ e s, p.emit e s = ((), s)
  pause : ∀ s, p.pause s = ((), s)

theorem alone_silent : Access.alone.Silent := ⟨fun _ _ => rfl, fun _ => rfl⟩

theorem afterRefusal_silent {p : Access σ} (h : p.Silent) (u : Update) (attempt : Nat) (s : σ) :
    afterRefusal p u attempt s = (refused u attempt, s) := by
  simp only [afterRefusal, bind, StateT.bind, h.emit, h.pause, refused]
  by_cases more : attempt < u.attempts
  · simp only [if_pos more]
    rfl
  · simp only [if_neg more, StateT.bind, h.emit]
    rfl

end ChannelRouting.Update
