import ChannelRouting.Proofs.History
import ChannelRouting.Proofs.Update.Overlap
import Mathlib.Order.Monotone.Basic

/-!
# Overlapping calls have a serial order

While nobody removes the entry of a key, the calls on it have the effect of a serial
execution, in the order in which their swaps succeeded. The entry that was put first
is the start of a fold, and every swap that succeeds adds the mutation of its call to
the end of it: nothing is lost, and nothing counts twice.

`Serialized` states this of all that one key sees, and `overlapping_calls_serialize`
proves it of every schedule. The invariant behind it (`Serial`) ties every call in
flight to the fold: a call that is about to swap read the fold as it was when the
version it names was current, and the version that is stored is the number of swaps so
far. So a swap that succeeds extends the very entry that its call has read.

Nothing is said here of entries that are removed: then versions start again.
-/

namespace ChannelRouting.Overlap

/-- A swap that succeeded: whose it was, and the mutation it made. -/
structure Landing where
  call : Nat
  mutation : Mutation
deriving DecidableEq

/-- The swap that a deed is, if it is one that succeeded. -/
def landing? : Deed → Option Landing
  | .swapped id m _ _ true => some { call := id.number, mutation := m }
  | _ => none

/-- The swaps that succeeded, in order. -/
def landings (deeds : List Deed) : List Landing := deeds.filterMap landing?

/-- The entry that a deed put where there was none. -/
def inserted? : Deed → Option Entry
  | .put e none => some e
  | _ => none

/-- The entries that were put where there was none, in order. -/
def insertions (deeds : List Deed) : List Entry := deeds.filterMap inserted?

/-- The fold of the mutations of some swaps. -/
def replay (first : Entry) (ls : List Landing) : Entry :=
  Mutation.applyAll first (ls.map Landing.mutation)

/-- **One key's calls in serial order.** -/
structure Serialized (key : ChannelKey) (v : View) : Prop where
  /-- At most one entry is ever put where there was none. -/
  once : (insertions v.deeds).length ≤ 1
  /-- From then on the stored entry is the fold over the swaps so far. -/
  stored : ∀ first ∈ insertions v.deeds,
    v.stored = some { version := (landings v.deeds).length, entry := replay first (landings v.deeds) }
  /-- A call that returned an entry has one place in the order, and returned the fold up to it. -/
  returned : ∀ n c e, v.calls n = some c → c.phase = .finished (.ok (some e)) →
    ∃ first ∈ insertions v.deeds, ∃ i, (landings v.deeds)[i]? = some ⟨n, c.mutation⟩ ∧
      (∀ j l, (landings v.deeds)[j]? = some l → l.call = n → j = i) ∧
      e = replay first ((landings v.deeds).take (i + 1))
  /-- Only such calls have a place. -/
  landed : ∀ l ∈ landings v.deeds, ∃ c e, v.calls l.call = some c ∧
    c.phase = .finished (.ok (some e))
  /-- A call that returned anything else has none. -/
  failed : ∀ n c r, v.calls n = some c → c.phase = .finished r → (∀ e, r ≠ .ok (some e)) →
    ∀ l ∈ landings v.deeds, l.call ≠ n
  /-- Readers see the fold grow: a later reader sees as much of it or more. -/
  got : ∃ reach : Nat → Nat, Monotone reach ∧ ∀ i found, v.deeds[i]? = some (.got key found) →
    ∀ first ∈ insertions (v.deeds.take i), reach i ≤ (landings v.deeds).length ∧
      found = some (replay first ((landings v.deeds).take (reach i)))

/-! ## The folds of a growing order -/

theorem landings_concat_none {deeds : List Deed} {d : Deed} (h : landing? d = none) :
    landings (deeds ++ [d]) = landings deeds := by
  simp only [landings, List.filterMap_append, List.filterMap_cons, h, List.filterMap_nil,
    List.append_nil]

theorem landings_concat_some {deeds : List Deed} {d : Deed} {l : Landing}
    (h : landing? d = some l) : landings (deeds ++ [d]) = landings deeds ++ [l] := by
  simp only [landings, List.filterMap_append, List.filterMap_cons, h, List.filterMap_nil]

theorem insertions_concat_none {deeds : List Deed} {d : Deed} (h : inserted? d = none) :
    insertions (deeds ++ [d]) = insertions deeds := by
  simp only [insertions, List.filterMap_append, List.filterMap_cons, h, List.filterMap_nil,
    List.append_nil]

theorem insertions_concat_some {deeds : List Deed} {d : Deed} {e : Entry}
    (h : inserted? d = some e) : insertions (deeds ++ [d]) = insertions deeds ++ [e] := by
  simp only [insertions, List.filterMap_append, List.filterMap_cons, h, List.filterMap_nil]

theorem replay_concat (first : Entry) (ls : List Landing) (l : Landing) :
    replay first (ls ++ [l]) = l.mutation.apply (replay first ls) := by
  simp only [replay, Mutation.applyAll, List.map_append, List.map_cons, List.map_nil,
    List.foldl_append, List.foldl_cons, List.foldl_nil]

/-! ## The invariant -/

/-- **How a call stands to the order**: whether its swap is in it, and what it has read of it.
`first` holds the entry that was put, `ls` the swaps so far. -/
inductive Agrees (first : List Entry) (ls : List Landing) (n : Nat) : Option Call → Prop
  | unbegun : (∀ l ∈ ls, l.call ≠ n) → Agrees first ls n none
  | loading (c : Call) (a : Nat) : c.phase = .loading a → (∀ l ∈ ls, l.call ≠ n) →
    Agrees first ls n (some c)
  | swapping (c : Call) (a version : Nat) (e : Entry) :
    c.phase = .swapping a version (c.mutation.apply (replay e (ls.take version))) →
    (∀ l ∈ ls, l.call ≠ n) → first = [e] → version ≤ ls.length → Agrees first ls n (some c)
  | returned (c : Call) (e : Entry) (i : Nat) :
    c.phase = .finished (.ok (some (replay e (ls.take (i + 1))))) → first = [e] →
    ls[i]? = some ⟨n, c.mutation⟩ → (∀ j l, ls[j]? = some l → l.call = n → j = i) →
    Agrees first ls n (some c)
  | failed (c : Call) (r : Except StoreError (Option Entry)) : c.phase = .finished r →
    (∀ e, r ≠ .ok (some e)) → (∀ l ∈ ls, l.call ≠ n) → Agrees first ls n (some c)

/-- How the stored entry stands to the order: there is none before the first is put, and then
its version counts the swaps. -/
def Holds (first : List Entry) (ls : List Landing) (stored : Option Versioned) : Prop :=
  (first = [] ∧ ls = [] ∧ stored = none) ∨
    ∃ e, first = [e] ∧ stored = some { version := ls.length, entry := replay e ls }

/-- **The invariant of a key whose entry nobody removes.** -/
structure Serial (key : ChannelKey) (v : View) : Prop where
  holds : Holds (insertions v.deeds) (landings v.deeds) v.stored
  agrees : ∀ n, Agrees (insertions v.deeds) (landings v.deeds) n (v.calls n)
  reads : Throughout (fun before d => ∀ found, d = .got key found →
    ∀ first, insertions before = [first] → found = some (replay first (landings before))) v.deeds

/-- Putting the first entry changes the standing of no call: none has read anything yet. -/
theorem Agrees.inserted {ls : List Landing} {n : Nat} {oc : Option Call} {e : Entry}
    (h : Agrees [] ls n oc) : Agrees [e] ls n oc := by
  cases h with
  | unbegun hn => exact .unbegun hn
  | loading c a hp hn => exact .loading c a hp hn
  | swapping c a version e' hp hn hf hv => cases hf
  | returned c e' i hp hf hi hu => cases hf
  | failed c r hp hr hn => exact .failed c r hp hr hn

/-- A swap at the end of the order leaves the standing of every other call. -/
theorem Agrees.landed {first : List Entry} {ls : List Landing} {n : Nat} {oc : Option Call}
    {l : Landing} (h : Agrees first ls n oc) (other : l.call ≠ n) :
    Agrees first (ls ++ [l]) n oc := by
  have absent (hn : ∀ l' ∈ ls, l'.call ≠ n) : ∀ l' ∈ ls ++ [l], l'.call ≠ n := by
    intro l' hl
    rcases List.mem_append.mp hl with hl | hl
    · exact hn l' hl
    · exact List.mem_singleton.mp hl ▸ other
  cases h with
  | unbegun hn => exact .unbegun (absent hn)
  | loading c a hp hn => exact .loading c a hp (absent hn)
  | swapping c a version e hp hn hf hv =>
    refine .swapping c a version e ?_ (absent hn) hf ?_
    · rw [List.take_append_of_le_length hv]
      exact hp
    · rw [List.length_append]
      omega
  | returned c e i hp hf hi hu =>
    have hlt : i < ls.length := (List.getElem?_eq_some_iff.mp hi).1
    refine .returned c e i ?_ hf ?_ ?_
    · rw [List.take_append_of_le_length (by omega)]
      exact hp
    · rw [List.getElem?_append_left hlt]
      exact hi
    · intro j l' hj hn
      by_cases before : j < ls.length
      · rw [List.getElem?_append_left before] at hj
        exact hu j l' hj hn
      · rw [List.getElem?_append_right (by omega)] at hj
        have : l' = l := List.mem_singleton.mp (List.mem_of_getElem? hj)
        exact absurd hn (this ▸ other)
  | failed c r hp hr hn => exact .failed c r hp hr (absent hn)

theorem Agrees.update {first : List Entry} {ls : List Landing} {v : View} {n : Nat} {oc : Option Call}
    (all : ∀ k, k ≠ n → Agrees first ls k (v.calls k)) (h : Agrees first ls n oc) (k : Nat) :
    Agrees first ls k (Function.update v.calls n oc k) := by
  by_cases hk : k = n
  · subst hk
    rw [Function.update_self]
    exact h
  · rw [Function.update_of_ne hk]
    exact all k hk

namespace Serial

variable {key : ChannelKey} {v : View}

/-- A deed that neither puts an entry where there was none nor is a swap that succeeded. -/
theorem quiet (h : Serial key v) {d : Deed} (hi : inserted? d = none) (hl : landing? d = none)
    (hr : ∀ found, d = .got key found → ∀ first, insertions v.deeds = [first] →
      found = some (replay first (landings v.deeds))) :
    Serial key (v.done v.stored d) where
  holds := by
    rw [View.done, insertions_concat_none hi, landings_concat_none hl]
    exact h.holds
  agrees n := by
    rw [View.done, insertions_concat_none hi, landings_concat_none hl]
    exact h.agrees n
  reads := throughout_concat h.reads hr

/-- A call that goes on without a place in the order. -/
theorem setPhase (h : Serial key v) {n : Nat} {c : Call} {phase : Update.Phase}
    (next : Agrees (insertions v.deeds) (landings v.deeds) n (some { c with phase := phase })) :
    Serial key (v.setPhase n c phase) where
  holds := h.holds
  agrees := Agrees.update (fun k _ => h.agrees k) next
  reads := h.reads

/-- A call that has not returned has no place in the order. -/
theorem outside (h : Serial key v) {n : Nat} {c : Call} (hc : v.calls n = some c)
    (open_ : ∀ r, c.phase ≠ .finished r) : ∀ l ∈ landings v.deeds, l.call ≠ n := by
  have standing := h.agrees n
  rw [hc] at standing
  cases standing with
  | loading _ a hp hn => exact hn
  | swapping _ a version e hp hn hf hv => exact hn
  | returned _ e i hp hf hi hu => exact absurd hp (open_ _)
  | failed _ r hp hr hn => exact hn

/-- **A call that names the stored version has read the stored entry**, and that is the fold so
far. -/
theorem current (h : Serial key v) {n a : Nat} {c : Call} {w : Versioned} {next : Entry}
    (hc : v.calls n = some c) (hp : c.phase = .swapping a w.version next)
    (hs : v.stored = some w) :
    ∃ e, insertions v.deeds = [e] ∧
      w = { version := (landings v.deeds).length, entry := replay e (landings v.deeds) } ∧
      next = c.mutation.apply (replay e (landings v.deeds)) := by
  obtain ⟨-, -, hs'⟩ | ⟨e, hi, hs'⟩ := h.holds
  · rw [hs] at hs'
    cases hs'
  -- The version is the length of the order, so what the call has read of it is all of it.
  · have hw := Option.some.inj (hs.symm.trans hs')
    have standing := h.agrees n
    rw [hc] at standing
    cases standing with
    | swapping _ _ version e' hp' _ hi' _ =>
      rw [hp] at hp'
      cases hi.symm.trans hi'
      obtain ⟨-, rfl, rfl⟩ := Update.Phase.swapping.inj hp'
      refine ⟨e, hi, hw, ?_⟩
      rw [hw, List.take_length]
    | loading _ _ hp' => cases hp.symm.trans hp'
    | returned _ _ _ hp' => cases hp.symm.trans hp'
    | failed _ _ hp' => cases hp.symm.trans hp'

theorem afterLoad (h : Serial key v) {n : Nat} {c : Call} {u : Update} (a : Nat)
    (hu : u.mutation = c.mutation) (outside : ∀ l ∈ landings v.deeds, l.call ≠ n) :
    Agrees (insertions v.deeds) (landings v.deeds) n
      (some { c with phase := u.afterLoad a (.ok v.stored) }) := by
  obtain ⟨hi, hl, hs⟩ | ⟨e, hi, hs⟩ := h.holds
  · rw [hs]
    exact .failed _ (.ok none) rfl (fun e he => nomatch he) outside
  · rw [hs]
    refine .swapping _ a (landings v.deeds).length e ?_ outside hi (Nat.le_refl _)
    rw [List.take_length]
    simp only [Update.afterLoad, hu]

end Serial

/-- **Every action but a removal keeps the serial order.** -/
theorem serial_step {key : ChannelKey} (v : View) (a : Action) (v' : View) (h : Serial key v)
    (kept : a ≠ .remove key) (step : Seen key v a v') : Serial key v' := by
  cases step with
  | elsewhere _ => exact h
  | inserted e hk hs =>
    -- The entry is absent, so none was put before: nobody removes it.
    obtain ⟨hi, hl⟩ : insertions v.deeds = [] ∧ landings v.deeds = [] := by
      obtain ⟨hi, hl, -⟩ | ⟨e, hi, hs'⟩ := h.holds
      · exact ⟨hi, hl⟩
      · rw [hs] at hs'
        cases hs'
    have hi' : insertions (v.deeds ++ [.put e none]) = [e] := by
      rw [insertions_concat_some (d := .put e none) rfl, hi]
      rfl
    have hl' : landings (v.deeds ++ [.put e none]) = [] := by
      rw [landings_concat_none (d := .put e none) rfl, hl]
    refine ⟨?_, fun n => ?_, throughout_concat h.reads fun _ hd => by cases hd⟩
    · simp only [View.done, hi', hl']
      exact .inr ⟨e, rfl, rfl⟩
    · have := h.agrees n
      simp only [View.done, hi', hl']
      rw [hi, hl] at this
      exact this.inserted
  | present e w hk hs => exact hs ▸ h.quiet (d := .put e (some w.entry)) rfl rfl fun _ hd => by cases hd
  | got =>
    refine h.quiet rfl rfl fun found hd first hf => ?_
    cases hd
    obtain ⟨hi, -, -⟩ | ⟨e, hi, hs⟩ := h.holds
    · rw [hf] at hi
      cases hi
    · rw [hf] at hi
      cases hi
      rw [hs]
      rfl
  | removed => exact absurd rfl kept
  | began n m limit hc =>
    have outside : ∀ l ∈ landings v.deeds, l.call ≠ n := by
      have := h.agrees n
      rw [hc] at this
      cases this with
      | unbegun hn => exact hn
    exact ⟨h.holds, Agrees.update (fun k _ => h.agrees k) (.loading _ 1 rfl outside), h.reads⟩
  | taken n m limit c hc => exact h
  | unknown n hc => exact h
  | loaded n c a hc hp =>
    have outside := h.outside hc fun r e => by rw [hp] at e; cases e
    have noted := h.quiet (d := .loaded ⟨key, n⟩ v.stored) rfl rfl fun _ hd => by cases hd
    refine noted.setPhase (noted.afterLoad a rfl ?_)
    rw [View.done, landings_concat_none rfl]
    exact outside
  | landed n c a w next hc hp hs =>
    -- The order grows by this swap, and its call has read the fold that it extends.
    have outside := h.outside hc fun r e => by rw [hp] at e; cases e
    obtain ⟨e, hi, hw, hn⟩ := h.current hc hp hs
    have hl' : landings (v.deeds ++ [.swapped ⟨key, n⟩ c.mutation w.version next true]) =
        landings v.deeds ++ [⟨n, c.mutation⟩] := landings_concat_some rfl
    have hi' : insertions (v.deeds ++ [.swapped ⟨key, n⟩ c.mutation w.version next true]) =
        insertions v.deeds := insertions_concat_none rfl
    refine ⟨?_, ?_, throughout_concat h.reads fun _ hd => by cases hd⟩
    · simp only [View.setPhase, View.done, hi', hl']
      refine .inr ⟨e, hi, ?_⟩
      rw [replay_concat, ← hn, hw, List.length_append, List.length_singleton]
    · simp only [View.setPhase, View.done, hi', hl']
      refine Agrees.update (fun k hk => (h.agrees k).landed (Ne.symm hk)) ?_
      refine .returned _ e (landings v.deeds).length ?_ hi List.getElem?_concat_length ?_
      · rw [List.take_of_length_le (by rw [List.length_append, List.length_singleton]),
          replay_concat, ← hn]
      · intro j l hj hl
        by_cases before : j < (landings v.deeds).length
        · rw [List.getElem?_append_left before] at hj
          exact absurd hl (outside l (List.mem_of_getElem? hj))
        · have := (List.getElem?_eq_some_iff.mp hj).1
          rw [List.length_append, List.length_singleton] at this
          omega
  | refused n c a version next hc hp hs =>
    have outside := h.outside hc fun r e => by rw [hp] at e; cases e
    have noted := h.quiet (d := .swapped ⟨key, n⟩ c.mutation version next false) rfl rfl
      fun _ hd => by cases hd
    refine noted.setPhase ?_
    rw [View.done, insertions_concat_none rfl, landings_concat_none rfl]
    unfold Update.refused
    split
    · exact .loading _ (a + 1) rfl outside
    · exact .failed _ _ rfl (fun e he => by cases he) outside
  | settled n c r hc hp => exact h

theorem serial_start (key : ChannelKey) : Serial key (State.view {} key) :=
  ⟨.inl ⟨rfl, rfl, rfl⟩, fun _ => .unbegun (fun _ hl => nomatch hl), throughout_nil⟩

theorem serial_run {key : ChannelKey} {schedule : List Action}
    (kept : Action.remove key ∉ schedule) : Serial key ((run schedule).view key) :=
  after_induction (· ≠ .remove key) serial_step (serial_start key)
    fun _ ha e => kept (e ▸ ha)

namespace Serial

variable {key : ChannelKey} {v : View}

theorem once (h : Serial key v) : (insertions v.deeds).length ≤ 1 := by
  obtain ⟨hi, -, -⟩ | ⟨e, hi, -⟩ := h.holds
  · rw [hi]
    exact Nat.zero_le 1
  · rw [hi]
    exact Nat.le_refl 1

/-- An entry that was put before a point is the only one that was. -/
theorem insertions_take (h : Serial key v) {i : Nat} {first : Entry}
    (hf : first ∈ insertions (v.deeds.take i)) : insertions (v.deeds.take i) = [first] := by
  have sub : (insertions (v.deeds.take i)).Sublist (insertions v.deeds) :=
    (List.take_sublist i v.deeds).filterMap inserted?
  have few := Nat.le_trans sub.length_le h.once
  match hl : insertions (v.deeds.take i) with
  | [] => rw [hl] at hf; cases hf
  | [e] => rw [hl] at hf; rw [List.mem_singleton.mp hf]
  | _ :: _ :: _ => rw [hl] at few; simp only [List.length_cons] at few; omega

/-- The call of a swap in the order has returned an entry. -/
theorem call_of_landing (h : Serial key v) {l : Landing} (hl : l ∈ landings v.deeds) :
    ∃ c e, v.calls l.call = some c ∧ c.phase = .finished (.ok (some e)) := by
  have standing := h.agrees l.call
  generalize v.calls l.call = oc at standing ⊢
  cases standing with
  | unbegun hn => exact absurd rfl (hn l hl)
  | loading c a hp hn => exact absurd rfl (hn l hl)
  | swapping c a version e hp hn hf hv => exact absurd rfl (hn l hl)
  | returned c e i hp hf hi hu => exact ⟨c, _, rfl, hp⟩
  | failed c r hp hr hn => exact absurd rfl (hn l hl)

theorem serialized (h : Serial key v) : Serialized key v where
  once := h.once
  stored first hf := by
    obtain ⟨hi, -, -⟩ | ⟨e, hi, hs⟩ := h.holds
    · rw [hi] at hf
      cases hf
    · rw [hi] at hf
      rw [hs, List.mem_singleton.mp hf]
  returned n c e hc hp := by
    have standing := h.agrees n
    rw [hc] at standing
    cases standing with
    | returned _ first i hp' hf hi hu =>
      cases hp.symm.trans hp'
      exact ⟨first, hf ▸ List.mem_singleton_self first, i, hi, hu, rfl⟩
    | loading _ _ hp' => cases hp.symm.trans hp'
    | swapping _ _ _ _ hp' => cases hp.symm.trans hp'
    | failed _ r hp' hr =>
      cases hp.symm.trans hp'
      exact absurd rfl (hr e)
  landed _ hl := h.call_of_landing hl
  failed n c r hc hp hr l hl hn := by
    obtain ⟨c', e, hc', hp'⟩ := h.call_of_landing hl
    rw [hn, hc] at hc'
    cases hc'
    cases hp.symm.trans hp'
    exact hr e rfl
  got := by
    refine ⟨fun i => (landings (v.deeds.take i)).length,
      fun i j hij => length_filterMap_take_mono landing? v.deeds hij, fun i found hi first hf => ?_⟩
    have read := h.reads i _ hi found rfl first (h.insertions_take hf)
    have part : landings (v.deeds.take i) =
        (landings v.deeds).take (landings (v.deeds.take i)).length :=
      filterMap_take landing? v.deeds i
    refine ⟨((List.take_sublist i v.deeds).filterMap landing?).length_le, ?_⟩
    rw [read]
    exact congrArg (fun ls => some (replay first ls)) part

end Serial

/-- **Overlapping calls have a serial order.** Whatever the order in which any number of callers
put, read and mutate, as long as nobody removes the entry of a key the calls on it are
serialized by the order of their swaps. A beginning of a schedule is a schedule, so this is so
at every moment of a run. -/
theorem overlapping_calls_serialize {key : ChannelKey} {schedule : List Action}
    (kept : Action.remove key ∉ schedule) : Serialized key ((run schedule).view key) :=
  (serial_run kept).serialized

/-- Two calls read the same entry: the one whose swap comes second is refused and starts again. -/
def race : List Action :=
  let source : ChannelKey := ⟨"source"⟩
  [.put (.empty source), .call ⟨source, 0⟩ (.addRoute ⟨"a"⟩ []) 2,
    .call ⟨source, 1⟩ (.addRoute ⟨"b"⟩ ["k"]) 2, .turn ⟨source, 0⟩, .turn ⟨source, 1⟩,
    .turn ⟨source, 1⟩, .get source, .turn ⟨source, 0⟩, .turn ⟨source, 0⟩, .turn ⟨source, 0⟩,
    .get source]

theorem overlapping_calls_serialize_race :
    Action.remove ⟨"source"⟩ ∉ race ∧
      (landings ((run race).view ⟨"source"⟩).deeds).map Landing.call = [1, 0] ∧
      Serialized ⟨"source"⟩ ((run race).view ⟨"source"⟩) :=
  ⟨by decide, by decide +kernel, overlapping_calls_serialize (by decide)⟩

end ChannelRouting.Overlap
