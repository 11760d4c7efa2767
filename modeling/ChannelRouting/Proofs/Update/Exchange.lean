import ChannelRouting.Proofs.Update.Step
import Mathlib.Logic.ExistsUnique

/-!
# What an update asks of its table, and how it ends

Nothing is known here of the table. It answers loads and swaps as it likes: entries change or go
between two calls, and any call may fail. Its state is of any type, a list of the answers that are
still to come included. An `Exchange` is a call of an update with the answer to it, and
`Access.traced` lists them while the update runs as it would without (`Tells`).

* `Move` is what one step can be, and `step_tells` that every step is one.
* `Account` tells a run attempt by attempt: as long as swaps are refused and attempts are left the
  update loads anew. `run_tells` is the run, by induction on the attempts that are left.
* `AllOrNothing` is what follows of all the exchanges and of the result, and
  `updates_are_all_or_nothing` that it holds over every table.
-/

namespace ChannelRouting.Update

/-- A call of an update and the answer to it. -/
inductive Exchange where
  | loaded (key : ChannelKey) (answer : Except StoreError (Option Versioned))
  | swapped (key : ChannelKey) (version : Nat) (next : Entry) (answer : Except StoreError Bool)

namespace Exchange

def isSwap : Exchange → Bool
  | loaded .. => false
  | swapped .. => true

/-- Whether an update goes on after the answer: an entry was found, or a swap refused. -/
def goesOn : Exchange → Bool
  | loaded _ (.ok (some _)) => true
  | swapped _ _ _ (.ok false) => true
  | _ => false

/-- The failure that was the answer. -/
def failure? : Exchange → Option StoreError
  | loaded _ (.error e) => some e
  | swapped _ _ _ (.error e) => some e
  | _ => none

end Exchange

variable {σ α β : Type}

/-- A call with the exchange it is, put behind those that are listed already. -/
def noting (call : StateM σ α) (exchange : α → Exchange) : StateM (σ × List Exchange) α := fun s =>
  ((call s.1).1, ((call s.1).2, s.2 ++ [exchange (call s.1).1]))

/-- A call that is not listed. -/
def unnoted (call : StateM σ α) : StateM (σ × List Exchange) α := fun s =>
  ((call s.1).1, ((call s.1).2, s.2))

/-- **An access that lists the exchanges.** -/
def Access.traced (p : Access σ) : Access (σ × List Exchange) where
  load key := noting (p.load key) (.loaded key)
  swap key version e := noting (p.swap key version e) (.swapped key version e)
  emit e := unnoted (p.emit e)
  pause := unnoted p.pause

/-- `x` is `y` with a list of exchanges: it answers the same, and what it adds to the list
agrees with `Q`. -/
def Tells (x : StateM (σ × List Exchange) α) (y : StateM σ α) (Q : α → List Exchange → Prop) :
    Prop :=
  ∀ s log, ∃ ex, x (s, log) = ((y s).1, ((y s).2, log ++ ex)) ∧ Q (y s).1 ex

theorem Tells.pure {a : α} {Q : α → List Exchange → Prop} (h : Q a []) :
    Tells (σ := σ) (Pure.pure a) (Pure.pure a) Q := by
  intro s log
  refine ⟨[], ?_, h⟩
  rw [List.append_nil]
  rfl

theorem Tells.bind {x : StateM (σ × List Exchange) α} {y : StateM σ α}
    {f : α → StateM (σ × List Exchange) β} {g : α → StateM σ β} {Q : α → List Exchange → Prop}
    {R : β → List Exchange → Prop} (first : Tells x y Q)
    (next : ∀ a ex, Q a ex → Tells (f a) (g a) fun b ex' => R b (ex ++ ex')) :
    Tells (x >>= f) (y >>= g) R := by
  intro s log
  obtain ⟨ex, hx, hq⟩ := first s log
  obtain ⟨ex', hf, hr⟩ := next (y s).1 ex hq (y s).2 (log ++ ex)
  refine ⟨ex ++ ex', ?_, hr⟩
  show f (x (s, log)).1 (x (s, log)).2 = _
  rw [hx, hf, List.append_assoc]
  rfl

theorem Tells.imp {x : StateM (σ × List Exchange) α} {y : StateM σ α}
    {Q R : α → List Exchange → Prop} (told : Tells x y Q) (weaker : ∀ a ex, Q a ex → R a ex) :
    Tells x y R := by
  intro s log
  obtain ⟨ex, hx, hq⟩ := told s log
  exact ⟨ex, hx, weaker _ ex hq⟩

/-! ## One step -/

/-- What a swap leads to. -/
def afterSwap (u : Update) (attempt : Nat) (next : Entry) : Except StoreError Bool → Phase
  | .error e => .finished (.error e)
  | .ok true => .finished (.ok (some next))
  | .ok false => u.refused attempt

/-- **What a step can be**, whatever the table answers. -/
inductive Move (u : Update) : Phase → Phase → List Exchange → Prop
  | loaded (attempt : Nat) (answer : Except StoreError (Option Versioned)) :
    Move u (.loading attempt) (u.afterLoad attempt answer) [.loaded u.key answer]
  | swapped (attempt version : Nat) (next : Entry) (answer : Except StoreError Bool) :
    Move u (.swapping attempt version next) (u.afterSwap attempt next answer)
      [.swapped u.key version next answer]
  | settled (r : Except StoreError (Option Entry)) : Move u (.finished r) (.finished r) []

/-- Telling others of a refusal and letting them act are no exchanges. -/
theorem afterRefusal_traced (p : Access σ) (u : Update) (attempt : Nat) (s : σ)
    (log : List Exchange) :
    afterRefusal p.traced u attempt (s, log) =
      (u.refused attempt, ((afterRefusal p u attempt s).2, log)) := by
  simp only [afterRefusal, refused, bind, StateT.bind]
  by_cases more : attempt < u.attempts
  · simp only [if_pos more]
    rfl
  · simp only [if_neg more]
    rfl

theorem afterRefusal_fst (p : Access σ) (u : Update) (attempt : Nat) (s : σ) :
    (afterRefusal p u attempt s).1 = u.refused attempt := by
  simp only [afterRefusal, refused, bind, StateT.bind]
  by_cases more : attempt < u.attempts
  · simp only [if_pos more]
    rfl
  · simp only [if_neg more]
    rfl

/-- **Every step is a move.** -/
theorem step_tells (p : Access σ) (u : Update) (phase : Phase) :
    Tells (step p.traced u phase) (step p u phase) (Move u phase) := by
  intro s log
  cases phase with
  | loading attempt =>
    refine ⟨[.loaded u.key (p.load u.key s).1], ?_, ?_⟩
    · rw [step_loading, step_loading]
      rfl
    · rw [step_loading]
      exact .loaded attempt _
  | swapping attempt version next =>
    refine ⟨[.swapped u.key version next (p.swap u.key version next s).1], ?_⟩
    rw [step_swapping, step_swapping]
    have listed : p.traced.swap u.key version next (s, log) =
        ((p.swap u.key version next s).1, ((p.swap u.key version next s).2,
          log ++ [.swapped u.key version next (p.swap u.key version next s).1])) := rfl
    rw [listed]
    obtain ⟨answer, s'⟩ := p.swap u.key version next s
    cases answer with
    | error e => exact ⟨rfl, .swapped attempt version next (.error e)⟩
    | ok done =>
      cases done with
      | true => exact ⟨rfl, .swapped attempt version next (.ok true)⟩
      | false =>
        simp only [afterRefusal_traced, afterRefusal_fst]
        exact ⟨trivial, .swapped attempt version next (.ok false)⟩
  | finished r =>
    refine ⟨[], ?_, .settled r⟩
    rw [List.append_nil]
    rfl

/-! ## A run -/

/-- An attempt that came as far as its swap. -/
def attempted (u : Update) (w : Versioned) (answer : Except StoreError Bool) : List Exchange :=
  [.loaded u.key (.ok (some w)), .swapped u.key w.version (u.mutation.apply w.entry) answer]

/-- **The account of a run** that has a number of attempts left. -/
inductive Account (u : Update) : Nat → Except StoreError (Option Entry) → List Exchange → Prop
  | unread (n : Nat) (e : StoreError) : Account u (n + 1) (.error e) [.loaded u.key (.error e)]
  | absent (n : Nat) : Account u (n + 1) (.ok none) [.loaded u.key (.ok none)]
  | unswapped (n : Nat) (w : Versioned) (e : StoreError) :
    Account u (n + 1) (.error e) (u.attempted w (.error e))
  | written (n : Nat) (w : Versioned) :
    Account u (n + 1) (.ok (some (u.mutation.apply w.entry))) (u.attempted w (.ok true))
  | again (n : Nat) (w : Versioned) (r : Except StoreError (Option Entry)) (ex : List Exchange) :
    Account u n r ex → Account u (n + 1) r (u.attempted w (.ok false) ++ ex)
  | exhausted : Account u 0 (.error (.contention u.key u.attempts)) []

/-- A finished update asks for nothing more. -/
theorem finished_tells (p : Access σ) (u : Update) (fuel : Nat)
    {r : Except StoreError (Option Entry)} {Q : Except StoreError (Option Entry) → List Exchange → Prop}
    (h : Q r []) : Tells (runFrom p.traced u fuel (.finished r)) (runFrom p u fuel (.finished r)) Q := by
  intro s log
  refine ⟨[], ?_, ?_⟩
  · rw [runFrom_finished, runFrom_finished, List.append_nil]
  · rw [runFrom_finished]
    exact h

/-- One attempt: it ends the run, or its swap is refused. -/
theorem attempt_tells (p : Access σ) (u : Update) (attempt : Nat) {fuel n : Nat}
    (refused : Tells (runFrom p.traced u fuel (u.refused attempt))
      (runFrom p u fuel (u.refused attempt)) (Account u n)) :
    Tells (runFrom p.traced u (fuel + 2) (.loading attempt))
      (runFrom p u (fuel + 2) (.loading attempt)) (Account u (n + 1)) := by
  refine (step_tells p u (.loading attempt)).bind ?_
  intro phase ex move
  cases move with
  | loaded _ answer =>
    rcases answer with e | _ | w
    · exact finished_tells p u _ (.unread n e)
    · exact finished_tells p u _ (.absent n)
    · refine (step_tells p u (.swapping attempt w.version (u.mutation.apply w.entry))).bind ?_
      intro phase ex move
      cases move with
      | swapped _ _ _ answer =>
        rcases answer with e | _ | _
        · exact finished_tells p u _ (.unswapped n w e)
        · exact refused.imp fun r ex account => .again n w r ex account
        · exact finished_tells p u _ (.written n w)

/-- From the load of an attempt on, with the number of attempts that are left after it. -/
theorem loading_tells (p : Access σ) (u : Update) {left attempt fuel : Nat}
    (count : attempt + left = u.attempts) (enough : 2 * (left + 1) ≤ fuel) :
    Tells (runFrom p.traced u fuel (.loading attempt)) (runFrom p u fuel (.loading attempt))
      (Account u (left + 1)) := by
  -- on the attempts that are left: a refused swap leads to the load of the next, with one less
  induction left generalizing attempt fuel with
  | zero =>
    obtain ⟨fuel, rfl⟩ : ∃ rest, fuel = rest + 2 := ⟨fuel - 2, by omega⟩
    have last : u.refused attempt = .finished (.error (.contention u.key u.attempts)) :=
      if_neg (by omega)
    refine attempt_tells p u attempt ?_
    rw [last]
    exact finished_tells p u fuel .exhausted
  | succ left ih =>
    obtain ⟨fuel, rfl⟩ : ∃ rest, fuel = rest + 2 := ⟨fuel - 2, by omega⟩
    have more : u.refused attempt = .loading (attempt + 1) := if_pos (by omega)
    refine attempt_tells p u attempt ?_
    rw [more]
    exact ih (by omega) (by omega)

/-- **A run accounts for all its attempts.** -/
theorem run_tells (p : Access σ) (u : Update) :
    Tells (run p.traced u) (run p u) (Account u u.attempts) := by
  obtain ⟨left, count⟩ : ∃ left, u.attempts = left + 1 := by
    have one : 1 ≤ u.attempts := Nat.le_max_right u.limit 1
    exact ⟨u.attempts - 1, by omega⟩
  unfold run
  rw [count]
  exact loading_tells p u (by omega) (Nat.le_refl _)

/-! ## What follows of an account -/

theorem countP_attempted (u : Update) (w : Versioned) (answer : Except StoreError Bool)
    (ex : List Exchange) :
    (u.attempted w answer ++ ex).countP Exchange.isSwap = ex.countP Exchange.isSwap + 1 := by
  rw [List.countP_append, Nat.add_comm]
  rfl

/-- The ways in which an update can end. -/
inductive Conclusion where
  | written
  | absent
  | exhausted
  | failed
deriving DecidableEq

/-- **What each way of ending is**, by the exchanges and the result. Before the last exchange entries
were found and swaps refused, and nothing else. -/
inductive Ends (u : Update) :
    Conclusion → List Exchange → Except StoreError (Option Entry) → Prop
  /-- The last swap succeeded, and the result is the entry that it wrote. -/
  | written (before : List Exchange) (version : Nat) (next : Entry) :
    (∀ x ∈ before, x.goesOn = true) →
    Ends u .written (before ++ [.swapped u.key version next (.ok true)]) (.ok (some next))
  /-- The last load found nothing. -/
  | absent (before : List Exchange) : (∀ x ∈ before, x.goesOn = true) →
    Ends u .absent (before ++ [.loaded u.key (.ok none)]) (.ok none)
  /-- As many swaps as the update is allowed were tried, and all were refused. -/
  | exhausted (ex : List Exchange) : (∀ x ∈ ex, x.goesOn = true) →
    ex.countP Exchange.isSwap = max u.limit 1 →
    Ends u .exhausted ex (.error (.contention u.key (max u.limit 1)))
  /-- The table failed at the last call, and the result is its failure. -/
  | failed (before : List Exchange) (last : Exchange) (e : StoreError) :
    (∀ x ∈ before, x.goesOn = true) → last.failure? = some e →
    Ends u .failed (before ++ [last]) (.error e)

/-- The way of ending that the last exchange tells of. -/
def conclusion (ex : List Exchange) : Conclusion :=
  match ex.getLast? with
  | some (.swapped _ _ _ (.ok true)) => .written
  | some (.loaded _ (.ok none)) => .absent
  | some (.swapped _ _ _ (.error _)) | some (.loaded _ (.error _)) => .failed
  | _ => .exhausted

/-- The last exchange tells the ways of ending apart. -/
theorem Ends.eq_conclusion {u : Update} {c : Conclusion} {ex : List Exchange}
    {r : Except StoreError (Option Entry)} (h : Ends u c ex r) : c = conclusion ex := by
  unfold conclusion
  cases h with
  | written before version next goesOn => rw [List.getLast?_concat]
  | absent before goesOn => rw [List.getLast?_concat]
  | exhausted _ goesOn swaps =>
    cases last : ex.getLast? with
    | none => rfl
    | some x =>
      have going := goesOn x (List.mem_of_getLast? last)
      rcases x with ⟨_, _ | _ | _⟩ | ⟨_, _, _, _ | _ | _⟩ <;> first | rfl | cases going
  | failed before last e goesOn failure =>
    rw [List.getLast?_concat]
    rcases last with ⟨_, _ | _ | _⟩ | ⟨_, _, _, _ | _ | _⟩ <;> first | rfl | cases failure

/-- An attempt whose swap was refused, before all the others. -/
theorem goesOn_attempted (u : Update) (w : Versioned) {before : List Exchange}
    (goesOn : ∀ x ∈ before, x.goesOn = true) :
    ∀ x ∈ u.attempted w (.ok false) ++ before, x.goesOn = true := by
  intro x hx
  rcases List.mem_append.mp hx with own | later
  · cases own with
    | head => rfl
    | tail _ own =>
      cases List.mem_singleton.mp own
      rfl
  · exact goesOn x later

/-- An attempt before all the others does not change how they end, except that it counts. -/
theorem Ends.behind {u : Update} {c : Conclusion} {ex : List Exchange}
    {r : Except StoreError (Option Entry)} (h : Ends u c ex r) (other : c ≠ .exhausted)
    (w : Versioned) : Ends u c (u.attempted w (.ok false) ++ ex) r := by
  cases h with
  | written before version next goesOn =>
    rw [← List.append_assoc]
    exact .written _ version next (goesOn_attempted u w goesOn)
  | absent before goesOn =>
    rw [← List.append_assoc]
    exact .absent _ (goesOn_attempted u w goesOn)
  | exhausted _ _ _ => exact absurd rfl other
  | failed before last e goesOn failure =>
    rw [← List.append_assoc]
    exact .failed _ last e (goesOn_attempted u w goesOn) failure

/-- The swap of an attempt stands behind its load; any other is one of the attempts after it. -/
theorem swap_of_attempted {u : Update} {w : Versioned} {given : Except StoreError Bool}
    {rest before after : List Exchange} {key : ChannelKey} {version : Nat} {next : Entry}
    {answer : Except StoreError Bool}
    (split : u.attempted w given ++ rest = before ++ .swapped key version next answer :: after) :
    (before = [.loaded u.key (.ok (some w))] ∧ key = u.key ∧ version = w.version ∧
        next = u.mutation.apply w.entry) ∨
      ∃ between, before = u.attempted w given ++ between ∧
        rest = between ++ .swapped key version next answer :: after := by
  rcases before with _ | ⟨x, _ | ⟨y, between⟩⟩
  · cases split
  · cases split
    exact .inl ⟨rfl, rfl, rfl, rfl⟩
  · cases split
    exact .inr ⟨between, rfl, rfl⟩

/-- **What a run of an update has done**, by its exchanges and its result. -/
structure AllOrNothing (u : Update) (r : Except StoreError (Option Entry)) (ex : List Exchange) :
    Prop where
  /-- It swaps as often as it is allowed to at most, and that is once at least. -/
  bounded : ex.countP Exchange.isSwap ≤ max u.limit 1
  /-- A swap offers what the mutation makes of the entry that was loaded just before it, under the
  version that was loaded with it. -/
  offers : ∀ before key version next answer after,
    ex = before ++ .swapped key version next answer :: after →
    key = u.key ∧ ∃ earlier w, before = earlier ++ [.loaded u.key (.ok (some w))] ∧
      version = w.version ∧ next = u.mutation.apply w.entry
  /-- It ends in exactly one way. -/
  ended : ∃! c, Ends u c ex r

namespace Account

variable {u : Update} {n : Nat} {r : Except StoreError (Option Entry)} {ex : List Exchange}

/-- No attempt swaps twice. -/
theorem swaps_le (h : Account u n r ex) : ex.countP Exchange.isSwap ≤ n := by
  induction h with
  | unread n e | absent n => exact Nat.zero_le _
  | unswapped n w e | written n w => exact Nat.succ_le_succ (Nat.zero_le n)
  | again n w r ex _ ih =>
    rw [countP_attempted]
    exact Nat.succ_le_succ ih
  | exhausted => exact Nat.le_refl 0

theorem offers (h : Account u n r ex) {before after : List Exchange} {key : ChannelKey}
    {version : Nat} {next : Entry} {answer : Except StoreError Bool}
    (split : ex = before ++ .swapped key version next answer :: after) :
    key = u.key ∧ ∃ earlier w, before = earlier ++ [.loaded u.key (.ok (some w))] ∧
      version = w.version ∧ next = u.mutation.apply w.entry := by
  induction h generalizing before with
  | unread n e | absent n | exhausted => rcases before with _ | ⟨x, _ | _⟩ <;> cases split
  | unswapped n w e | written n w =>
    rw [← List.append_nil (u.attempted w _)] at split
    obtain ⟨rfl, own, version, next⟩ | ⟨between, -, none⟩ := swap_of_attempted split
    · exact ⟨own, [], w, rfl, version, next⟩
    · cases (List.append_eq_nil_iff.mp none.symm).2
  | again n w r ex _ ih =>
    obtain ⟨rfl, own, version, next⟩ | ⟨between, rfl, later⟩ := swap_of_attempted split
    · exact ⟨own, [], w, rfl, version, next⟩
    · obtain ⟨own, earlier, w', rfl, version, next⟩ := ih later
      exact ⟨own, u.attempted w (.ok false) ++ earlier, w', (List.append_assoc ..).symm, version, next⟩

/-- How the run ends; if it gives up, it has swapped once for each attempt it had. -/
theorem ends (h : Account u n r ex) :
    (∃ c, c ≠ .exhausted ∧ Ends u c ex r) ∨
      r = .error (.contention u.key u.attempts) ∧ (∀ x ∈ ex, x.goesOn = true) ∧
        ex.countP Exchange.isSwap = n := by
  have nothing : ∀ x ∈ ([] : List Exchange), x.goesOn = true := by
    intro x hx
    cases hx
  have found (w : Versioned) : ∀ x ∈ [Exchange.loaded u.key (.ok (some w))], x.goesOn = true := by
    intro x hx
    cases List.mem_singleton.mp hx
    rfl
  induction h with
  | unread n e => exact .inl ⟨.failed, Conclusion.noConfusion, .failed [] _ e nothing rfl⟩
  | absent n => exact .inl ⟨.absent, Conclusion.noConfusion, .absent [] nothing⟩
  | unswapped n w e => exact .inl ⟨.failed, Conclusion.noConfusion, .failed _ _ e (found w) rfl⟩
  | written n w => exact .inl ⟨.written, Conclusion.noConfusion, .written _ _ _ (found w)⟩
  | again n w r ex _ ih =>
    rcases ih with ⟨c, other, ends⟩ | ⟨gaveUp, goesOn, swaps⟩
    · exact .inl ⟨c, other, ends.behind other w⟩
    · refine .inr ⟨gaveUp, goesOn_attempted u w goesOn, ?_⟩
      rw [countP_attempted, swaps]
  | exhausted => exact .inr ⟨rfl, nothing, rfl⟩

theorem allOrNothing (h : Account u u.attempts r ex) : AllOrNothing u r ex where
  bounded := h.swaps_le
  offers _ _ _ _ _ _ split := h.offers split
  ended := by
    have some_way : ∃ c, Ends u c ex r := by
      rcases h.ends with ⟨c, -, ends⟩ | ⟨rfl, goesOn, swaps⟩
      · exact ⟨c, ends⟩
      · exact ⟨.exhausted, .exhausted ex goesOn swaps⟩
    obtain ⟨c, ends⟩ := some_way
    refine ⟨c, ends, ?_⟩
    intro c' ends'
    rw [ends.eq_conclusion, ends'.eq_conclusion]

end Account

/-- **An update is all or nothing over any table**, however it answers and whatever the number of
attempts: the run with its exchanges listed goes as the run itself, and they are those of an update
that has written the mutation of an entry it had just loaded, once, or has written nothing. -/
theorem updates_are_all_or_nothing (p : Access σ) (u : Update) (s : σ) :
    ∃ ex, run p.traced u (s, []) = ((run p u s).1, ((run p u s).2, ex)) ∧
      AllOrNothing u (run p u s).1 ex := by
  obtain ⟨ex, same, account⟩ := run_tells p u s []
  exact ⟨ex, same, account.allOrNothing⟩

end ChannelRouting.Update
