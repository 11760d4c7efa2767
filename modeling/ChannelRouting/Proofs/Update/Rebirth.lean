import ChannelRouting.Proofs.Update.Overlap

/-!
# Entries that are removed and put again

A key whose entry is removed and put again has versions that start again from 0, so a
version does not tell one life of the key from another. This module says exactly what
that does to overlapping calls.

`Faithful` is what a mutation promises at its swap: the entry it writes and returns is
its mutation of the entry that was stored just before. Two things are proved of every
run (`faithful_unless_removed`):

* A swap is faithful if no entry of the key was removed since its call last loaded.
  Within one life of the key a version does identify the entry: the invariant
  (`Bound`) is that the stored version is never behind the one a call has read, and
  that while they are equal the stored entry is the one it has read.
* Nothing weaker is enough. Whatever call is about to swap, and wherever it stands,
  one removal lets the others arrange that its swap succeeds and is not faithful.

`revived_entry_comes_back` is such a run, and a short one: the routes of the entry that
was removed come back over those of the entry that was put in its place.
-/

namespace ChannelRouting.Overlap

/-- Whether an entry of the key was removed since a call last loaded. -/
def removedSince (n : Nat) (deeds : List Deed) : Bool :=
  deeds.foldl (fun gone d =>
    match d with
    | .loaded id _ => if id.number = n then false else gone
    | .removed _ (some _) => true
    | _ => gone) false

/-- **A mutation's promise at its swap**: if the next turn of a call makes it return an entry,
that is its mutation of the entry stored just before, and it is stored then. -/
def Faithful (s : State) (id : CallId) : Prop :=
  ∀ c c' e, s.calls id = some c → (∀ r, c.phase ≠ .finished r) →
    (s.perform (.turn id)).calls id = some c' → c'.phase = .finished (.ok (some e)) →
    ∃ w w', s.table.load id.key = some w ∧ e = c.mutation.apply w.entry ∧
      (s.perform (.turn id)).table.load id.key = some w' ∧ w'.entry = e

/-! ## Within one life of the key -/

theorem removedSince_concat (n : Nat) (deeds : List Deed) (d : Deed) :
    removedSince n (deeds ++ [d]) =
      match d with
      | .loaded id _ => if id.number = n then false else removedSince n deeds
      | .removed _ (some _) => true
      | _ => removedSince n deeds := by
  simp only [removedSince, List.foldl_append, List.foldl_cons, List.foldl_nil]

/-- What a call that is about to swap knows of the stored entry, as long as none was removed
since it loaded. -/
def Knows (stored : Option Versioned) (deeds : List Deed) (n : Nat) (c : Call) : Prop :=
  ∀ a version next, c.phase = .swapping a version next → removedSince n deeds = false →
    ∃ w e, stored = some w ∧ next = c.mutation.apply e ∧ version ≤ w.version ∧
      (w.version = version → w.entry = e)

/-- **The invariant of every run.** -/
def Bound (v : View) : Prop := ∀ n c, v.calls n = some c → Knows v.stored v.deeds n c

theorem knows_of_phase {stored : Option Versioned} {deeds : List Deed} {n : Nat} {c : Call}
    (h : ∀ a version next, c.phase ≠ .swapping a version next) : Knows stored deeds n c :=
  fun a version next hp => absurd hp (h a version next)

/-- What a call knows outlives a deed after which the stored entry is the same. -/
theorem Knows.quiet {stored : Option Versioned} {deeds : List Deed} {n : Nat} {c : Call} {d : Deed}
    (h : Knows stored deeds n c) (same : removedSince n (deeds ++ [d]) = false →
      removedSince n deeds = false) : Knows stored (deeds ++ [d]) n c :=
  fun a version next hp hr => h a version next hp (same hr)

theorem Bound.setPhase {v : View} {n : Nat} {c : Call} {phase : Update.Phase}
    (others : ∀ k c', k ≠ n → v.calls k = some c' → Knows v.stored v.deeds k c')
    (next : Knows v.stored v.deeds n { c with phase := phase }) : Bound (v.setPhase n c phase) := by
  intro k c' hc
  by_cases hk : k = n
  · subst hk
    rw [View.calls_setPhase_self, Option.some.injEq] at hc
    exact hc ▸ next
  · rw [View.calls_setPhase_of_ne hk] at hc
    exact others k c' hk hc

/-- **Every action keeps what calls know.** -/
theorem bound_step {key : ChannelKey} (v : View) (a : Action) (v' : View) (h : Bound v)
    (step : Seen key v a v') : Bound v' := by
  cases step with
  | elsewhere _ => exact h
  | inserted e hk hs =>
    -- Without an entry no call knows of one: the last was removed since they loaded.
    intro n c hc a version next hp hr
    rw [View.done, removedSince_concat] at hr
    obtain ⟨w, _, hw, _⟩ := h n c hc a version next hp hr
    rw [hs] at hw
    cases hw
  | present e w hk hs =>
    exact fun n c hc => (h n c hc).quiet fun hr => by rwa [removedSince_concat] at hr
  | got => exact fun n c hc => (h n c hc).quiet fun hr => by rwa [removedSince_concat] at hr
  | removed =>
    intro n c hc a version next hp hr
    rw [View.done, removedSince_concat] at hr
    cases hs : v.stored with
    | some w => rw [hs] at hr; cases hr
    | none =>
      rw [hs] at hr
      obtain ⟨w, _, hw, _⟩ := h n c hc a version next hp hr
      rw [hs] at hw
      cases hw
  | began n m limit hc =>
    intro k c' hc'
    by_cases hk : k = n
    · subst hk
      simp only [Function.update_self, Option.some.injEq] at hc'
      subst hc'
      exact knows_of_phase fun _ _ _ hp => by cases hp
    · simp only [Function.update_of_ne hk] at hc'
      exact h k c' hc'
  | taken n m limit c hc => exact h
  | unknown n hc => exact h
  | loaded n c a hc hp =>
    refine Bound.setPhase (fun k c' hk hc' => (h k c' hc').quiet fun hr => ?_) ?_
    · simp only [removedSince_concat, if_neg (Ne.symm hk)] at hr
      exact hr
    · intro a' version next hp' _
      cases hs : v.stored with
      | none => rw [hs] at hp'; cases hp'
      | some w =>
        rw [hs] at hp'
        obtain ⟨-, rfl, rfl⟩ := Update.Phase.swapping.inj hp'
        exact ⟨w, w.entry, rfl, rfl, Nat.le_refl _, fun _ => rfl⟩
  | landed n c a w next hc hp hs =>
    refine Bound.setPhase (fun k c' hk hc' a' version next' hp' hr => ?_)
      (knows_of_phase fun _ _ _ hp' => by cases hp')
    rw [View.done, removedSince_concat] at hr
    obtain ⟨w', e, hw, hn, hle, _⟩ := h k c' hc' a' version next' hp' hr
    cases hs.symm.trans hw
    exact ⟨_, e, rfl, hn, Nat.le_succ_of_le hle, fun he => absurd he (by simp only; omega)⟩
  | refused n c a version next hc hp hs =>
    refine Bound.setPhase (fun k c' hk hc' => (h k c' hc').quiet fun hr => ?_)
      (knows_of_phase fun _ _ _ hp' => ?_)
    · rwa [removedSince_concat] at hr
    · unfold Update.refused at hp'
      split at hp' <;> cases hp'
  | settled n c r hc hp => exact h

theorem bound_run (key : ChannelKey) (schedule : List Action) : Bound ((run schedule).view key) :=
  after_induction (fun _ => True) (fun v a v' h _ => bound_step v a v' h)
    (fun _ _ hc => by cases hc) fun _ _ => trivial

/-- A turn that makes a call return an entry is a swap that succeeds. -/
theorem Seen.returned {key : ChannelKey} {v v' : View} {n : Nat} {c c' : Call} {e : Entry}
    (step : Seen key v (.turn ⟨key, n⟩) v') (hc : v.calls n = some c)
    (going : ∀ r, c.phase ≠ .finished r) (hc' : v'.calls n = some c')
    (hf : c'.phase = .finished (.ok (some e))) :
    ∃ a w, c.phase = .swapping a w.version e ∧ v.stored = some w ∧
      v'.stored = some { version := w.version + 1, entry := e } := by
  cases step with
  | elsewhere _ hk => exact absurd rfl hk
  | unknown _ h => cases h.symm.trans hc
  | loaded _ c₁ a h hp =>
    cases h.symm.trans hc
    rw [View.calls_setPhase_self, Option.some.injEq] at hc'
    subst hc'
    cases hs : v.stored with
    | none => rw [hs] at hf; cases hf
    | some w => rw [hs] at hf; cases hf
  | landed _ c₁ a w next h hp hs =>
    cases h.symm.trans hc
    rw [View.calls_setPhase_self, Option.some.injEq] at hc'
    subst hc'
    cases hf
    exact ⟨a, w, hp, hs, rfl⟩
  | refused _ c₁ a version next h hp hs =>
    cases h.symm.trans hc
    rw [View.calls_setPhase_self, Option.some.injEq] at hc'
    subst hc'
    simp only [Update.refused] at hf
    split at hf <;> cases hf
  | settled _ c₁ r h hp =>
    cases h.symm.trans hc
    exact absurd hp (going r)

/-- A swap is faithful if no entry of the key was removed since its call last loaded. -/
theorem faithful_of_kept {schedule : List Action} {id : CallId}
    (kept : removedSince id.number ((run schedule).view id.key).deeds = false) :
    Faithful (run schedule) id := by
  intro c c' e hc going hc' hf
  obtain ⟨a, w, hp, hs, hs'⟩ := (seen (run schedule) (.turn id) id.key).returned hc going hc' hf
  obtain ⟨w₁, read, hw, he, -, same⟩ := bound_run id.key schedule id.number c hc a w.version e hp kept
  cases hs.symm.trans hw
  exact ⟨w, _, hs, by rw [same rfl, he], hs', rfl⟩

/-! ## Across lives of the key -/

/-- No mutation makes the same of every entry. -/
theorem exists_apply_ne (m : Mutation) (key : ChannelKey) (next : Entry) :
    ∃ e : Entry, e.channel = key ∧ m.apply e ≠ next := by
  suffices two : ∃ e₁ e₂ : Entry, e₁.channel = key ∧ e₂.channel = key ∧ m.apply e₁ ≠ m.apply e₂ by
    obtain ⟨e₁, e₂, h₁, h₂, hne⟩ := two
    by_cases h : m.apply e₁ = next
    · exact ⟨e₂, h₂, fun h' => hne (h.trans h'.symm)⟩
    · exact ⟨e₁, h₁, h⟩
  have plain : (Entry.empty key).strategy ≠ ((Entry.empty key).withStrategy (some .direct)).strategy := by
    intro h
    cases h
  cases m with
  | addRoute t ks =>
    have kept (e : Entry) : ((Mutation.addRoute t ks).apply e).strategy = e.strategy := by
      simp only [Mutation.apply, Mutation.setKeys]
      split <;> rfl
    exact ⟨.empty key, (Entry.empty key).withStrategy (some .direct), rfl, rfl,
      fun h => plain (by rw [← kept, h, kept])⟩
  | removeRoute t ks =>
    have kept (e : Entry) : ((Mutation.removeRoute t ks).apply e).strategy = e.strategy := by
      simp only [Mutation.apply, Mutation.setKeys]
      split
      · rfl
      · split <;> rfl
    exact ⟨.empty key, (Entry.empty key).withStrategy (some .direct), rfl, rfl,
      fun h => plain (by rw [← kept, h, kept])⟩
  | setStrategy s =>
    have kept (e : Entry) : ((Mutation.setStrategy s).apply e).routes = e.routes := rfl
    have routed : (Entry.empty key).routes ≠
        ((Entry.empty key).withRoute ⟨key, .empty⟩).routes := by
      intro h
      cases h
    exact ⟨.empty key, (Entry.empty key).withRoute ⟨key, .empty⟩, rfl, rfl,
      fun h => routed (by rw [← kept, h, kept])⟩

/-- From some number on, no call of the key has begun. -/
theorem exists_fresh (key : ChannelKey) (schedule : List Action) :
    ∃ k, ∀ j ≥ k, ((run schedule).view key).calls j = none := by
  refine after_induction (P := fun v => ∃ k, ∀ j ≥ k, v.calls j = none) (fun _ => True) ?_
    ⟨0, fun _ _ => rfl⟩ fun _ _ => trivial
  intro v a v' ⟨k, hk⟩ _ step
  have raised {n : Nat} {oc : Option Call} :
      ∃ k, ∀ j ≥ k, Function.update v.calls n oc j = none := by
    refine ⟨max k (n + 1), fun j hj => ?_⟩
    rw [Function.update_of_ne (by omega)]
    exact hk j (by omega)
  cases step with
  | began n m limit hc => exact raised
  | loaded n c a hc hp => exact raised
  | landed n c a w next hc hp hs => exact raised
  | refused n c a version next hc hp hs => exact raised
  | _ => exact ⟨k, hk⟩

/-- A call that sets the strategy an entry has: its swap raises the version and nothing else. -/
def ageOnce (key : ChannelKey) (strategy : Option Strategy) (k : Nat) : List Action :=
  [.call ⟨key, k⟩ (.setStrategy strategy) 1, .turn ⟨key, k⟩, .turn ⟨key, k⟩]

def age (key : ChannelKey) (strategy : Option Strategy) (k : Nat) : Nat → List Action
  | 0 => []
  | n + 1 => ageOnce key strategy k ++ age key strategy (k + 1) n

theorem after_ageOnce {s : State} {key : ChannelKey} {k : Nat} {w : Versioned}
    (hs : (s.view key).stored = some w) (hk : (s.view key).calls k = none) :
    let v := (s.after (ageOnce key w.entry.strategy k)).view key
    v.stored = some { version := w.version + 1, entry := w.entry } ∧
      ∀ j, j ≠ k → v.calls j = (s.view key).calls j := by
  -- Each state is named before the next step is taken, or the terms are evaluated.
  let c : Call := { mutation := .setStrategy w.entry.strategy, limit := 1 }
  have began := view_eq_of_seen (Seen.began k c.mutation c.limit hk)
  generalize hs₁ : s.perform (.call ⟨key, k⟩ c.mutation c.limit) = s₁ at began
  have loaded : (s₁.perform (.turn ⟨key, k⟩)).view key = _ :=
    view_eq_of_seen (.loaded k c 1 (by rw [began]; exact Function.update_self ..) rfl)
  generalize hs₂ : s₁.perform (.turn ⟨key, k⟩) = s₂ at loaded
  have landed : (s₂.perform (.turn ⟨key, k⟩)).view key = _ :=
    view_eq_of_seen (.landed k { c with phase := .swapping 1 w.version w.entry } 1 w w.entry
      (by rw [loaded, began, hs]; exact View.calls_setPhase_self ..) rfl
      (by rw [loaded, began]; exact hs))
  have after : s.after (ageOnce key w.entry.strategy k) = s₂.perform (.turn ⟨key, k⟩) := by
    rw [← hs₂, ← hs₁]
    rfl
  rw [after, landed]
  refine ⟨rfl, fun j hj => ?_⟩
  rw [View.calls_setPhase_of_ne hj, View.calls_done, loaded, View.calls_setPhase_of_ne hj,
    View.calls_done, began]
  exact Function.update_of_ne hj ..

theorem after_age {s : State} (key : ChannelKey) {k : Nat} {w : Versioned} (n : Nat)
    (hs : (s.view key).stored = some w) (hk : ∀ j ≥ k, (s.view key).calls j = none) :
    let v := (s.after (age key w.entry.strategy k n)).view key
    v.stored = some { version := w.version + n, entry := w.entry } ∧
      ∀ j < k, v.calls j = (s.view key).calls j := by
  induction n generalizing s k w with
  | zero => exact ⟨hs, fun _ _ => rfl⟩
  | succ n ih =>
    obtain ⟨hs', hc'⟩ := after_ageOnce hs (hk k (Nat.le_refl k))
    have fresh : ∀ j ≥ k + 1, ((s.after (ageOnce key w.entry.strategy k)).view key).calls j = none :=
      fun j hj => (hc' j (by omega)).trans (hk j (by omega))
    obtain ⟨hs'', hc''⟩ := ih hs' fresh
    simp only [age, after_append]
    refine ⟨?_, fun j hj => (hc'' j (by omega)).trans (hc' j (by omega))⟩
    rw [hs'']
    simp only [Nat.add_assoc, Nat.add_comm 1 n]

/-- What the others do about a call that is about to swap: they remove the entry, put another, and
raise its version to the one that the call names. -/
def revival (key : ChannelKey) (e : Entry) (k version : Nat) : List Action :=
  [.remove key, .put e] ++ age key e.strategy k version

theorem after_revival {s : State} {key : ChannelKey} {e : Entry} (he : e.channel = key) {k : Nat}
    (hk : ∀ j ≥ k, (s.view key).calls j = none) (version : Nat) :
    let v := (s.after (revival key e k version)).view key
    v.stored = some { version := version, entry := e } ∧ ∀ j < k, v.calls j = (s.view key).calls j := by
  have gone : (s.perform (.remove key)).view key = _ := view_eq_of_seen .removed
  generalize hs₁ : s.perform (.remove key) = s₁ at gone
  have anew : (s₁.perform (.put e)).view key = _ :=
    view_eq_of_seen (.inserted e he (by rw [gone]; rfl))
  generalize hs₂ : s₁.perform (.put e) = s₂ at anew
  have same : (s₂.view key).calls = (s.view key).calls := by
    rw [anew, View.calls_done, gone, View.calls_done]
  obtain ⟨hs, hc⟩ := after_age (s := s₂) key (k := k) (w := ⟨0, e⟩) version
    (by rw [anew]; rfl) (by rw [same]; exact hk)
  simp only [revival, List.cons_append, List.nil_append, after_cons, hs₁, hs₂]
  exact ⟨by rw [hs, Nat.zero_add], fun j hj => by rw [hc j hj, same]⟩

theorem turn_notMem_age {key : ChannelKey} {strategy : Option Strategy} {k n i : Nat} (h : i < k) :
    Action.turn ⟨key, i⟩ ∉ age key strategy k n := by
  induction n generalizing k with
  | zero => exact List.not_mem_nil
  | succ n ih =>
    have other : (⟨key, i⟩ : CallId) ≠ ⟨key, k⟩ := fun e => by
      have := (CallId.mk.inj e).2
      omega
    simp only [age, ageOnce, List.cons_append, List.nil_append, List.mem_cons, Action.turn.injEq,
      other, reduceCtorEq, false_or]
    exact ih (by omega)

theorem count_remove_age (key : ChannelKey) (strategy : Option Strategy) (k n : Nat) :
    (age key strategy k n).count (.remove key) = 0 := by
  induction n generalizing k with
  | zero => rfl
  | succ n ih =>
    rw [age, List.count_append, ih]
    rfl

/-- **A version does not tell the lives of a key apart.** Whatever a call has loaded, the entry
can be removed and another one raised in its place so that the call's swap lands on an entry
that it has not read. -/
theorem exists_unfaithful {schedule : List Action} {id : CallId} {c : Call} {a version : Nat}
    {next : Entry} (hc : (run schedule).calls id = some c)
    (hp : c.phase = .swapping a version next) :
    ∃ more : List Action, more.count (.remove id.key) = 1 ∧ .turn id ∉ more ∧
      ¬ Faithful (run (schedule ++ more)) id := by
  obtain ⟨key, n⟩ := id
  -- An entry of which the call's mutation makes something else than what the call will write.
  obtain ⟨e, he, hne⟩ := exists_apply_ne c.mutation key next
  obtain ⟨k, hk⟩ := exists_fresh key schedule
  have below : n < k := by
    by_contra h
    cases hc.symm.trans (hk n (by omega))
  refine ⟨revival key e k version, ?_, ?_, fun faithful => ?_⟩
  · rw [revival, List.count_append, count_remove_age, List.count_cons_self,
      List.count_singleton]
    rfl
  · rw [revival, List.mem_append, not_or]
    exact ⟨by simp only [List.mem_cons, reduceCtorEq, List.not_mem_nil, or_self, not_false_eq_true],
      turn_notMem_age below⟩
  · obtain ⟨hs, hsame⟩ := after_revival (s := run schedule) he hk version
    rw [← run_append] at hs hsame
    have hc' : ((run (schedule ++ revival key e k version)).view key).calls n = some c :=
      (hsame n below).trans hc
    have landed : ((run (schedule ++ revival key e k version)).perform (.turn ⟨key, n⟩)).view key = _ :=
      view_eq_of_seen (.landed n c a ⟨version, e⟩ next hc' hp hs)
    obtain ⟨w, w', hw, hnext, -, -⟩ := faithful c { c with phase := .finished (.ok (some next)) } next hc'
      (fun r h => nomatch hp.symm.trans h)
      ((congrArg (fun v => View.calls v n) landed).trans (View.calls_setPhase_self ..)) rfl
    cases hs.symm.trans hw
    exact hne hnext.symm

/-- **When a swap lands on the entry its call has read.** It does if no entry of the key was
removed since; and at any moment one removal, of which the call knows nothing, can make it
land on another. -/
theorem faithful_unless_removed (schedule : List Action) (id : CallId) :
    (removedSince id.number ((run schedule).view id.key).deeds = false →
      Faithful (run schedule) id) ∧
    ∀ c a version next, (run schedule).calls id = some c → c.phase = .swapping a version next →
      ∃ more : List Action, more.count (.remove id.key) = 1 ∧ .turn id ∉ more ∧
        ¬ Faithful (run (schedule ++ more)) id :=
  ⟨faithful_of_kept, fun _ _ _ _ hc hp => exists_unfaithful hc hp⟩

/-- A call adds a route to an entry with one, and the entry is replaced by one without routes
before it swaps. -/
def revived : List Action :=
  let source : ChannelKey := ⟨"s"⟩
  [.put ((Entry.empty source).withRoute ⟨⟨"a"⟩, .ofList ["x"]⟩),
    .call ⟨source, 0⟩ (.addRoute ⟨"b"⟩ ["y"]) 64, .turn ⟨source, 0⟩, .remove source,
    .put (.empty source)]

/-- Up to the removal the call's swap is faithful, and then it is not. -/
theorem faithful_unless_removed_revived :
    Faithful (run (revived.take 3)) ⟨⟨"s"⟩, 0⟩ ∧
      ∃ more : List Action, more.count (.remove ⟨"s"⟩) = 1 ∧ .turn ⟨⟨"s"⟩, 0⟩ ∉ more ∧
        ¬ Faithful (run (revived.take 3 ++ more)) ⟨⟨"s"⟩, 0⟩ := by
  refine ⟨(faithful_unless_removed (revived.take 3) ⟨⟨"s"⟩, 0⟩).1 (by decide +kernel), ?_⟩
  exact (faithful_unless_removed (revived.take 3) ⟨⟨"s"⟩, 0⟩).2 _ _ _ _ rfl rfl

/-- **The removed entry's routes come back**: the call's swap succeeds and writes them over the
entry that was put since. -/
theorem revived_entry_comes_back :
    let target (t k : String) : Route := { target := ⟨t⟩, keys := .ofList [k] }
    ((run revived).table.load ⟨"s"⟩).map (fun w => w.entry.routes) = some [] ∧
      ((run (revived ++ [.turn ⟨⟨"s"⟩, 0⟩])).table.load ⟨"s"⟩).map (fun w => w.entry.routes) =
        some [target "a" "x", target "b" "y"] ∧
      ¬ Faithful (run revived) ⟨⟨"s"⟩, 0⟩ := by
  refine ⟨by decide +kernel, by decide +kernel, fun faithful => ?_⟩
  obtain ⟨w, w', hw, he, -, -⟩ := faithful _ _ _ rfl (fun r h => nomatch h) rfl rfl
  cases hw
  exact absurd he (by decide +kernel)

end ChannelRouting.Overlap
