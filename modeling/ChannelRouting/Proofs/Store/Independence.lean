import ChannelRouting.Proofs.Store.Agreement
import ChannelRouting.Proofs.Update.Overlap

/-!
# Channels that do not disturb each other

Many channels share a store, and each of them could have it to itself: what its callers are
answered and what becomes of its entry is the same when everything that is done to other keys
is left out. This is shown twice, since there are two ways of using a store.

* Operations that come one after another, on a store of either kind (`Store.Undisturbed`).
* Calls that overlap on a versioned table, their loads and swaps interleaved in any order
  (`Overlap.Undisturbed`). What is compared there is all that concerns the key: the stored
  entry with its version, what every load found, which swaps were refused, and what every call
  returned. So what happens to another key neither costs a call an attempt nor makes it fail,
  and hides no entry from it.

Both rest on the same observation. A step changes what its own key sees according to what this
key sees, and leaves what other keys see as it is.
-/

namespace ChannelRouting

namespace Store

namespace Operation

/-- The operations on a key. -/
def addressed (key : ChannelKey) (ops : List Operation) : List Operation :=
  ops.filter fun op => op.key = key

theorem addressed_cons_self {key : ChannelKey} {op : Operation} (h : op.key = key)
    (rest : List Operation) : addressed key (op :: rest) = op :: addressed key rest :=
  List.filter_cons_of_pos (decide_eq_true h)

theorem addressed_cons_other {key : ChannelKey} {op : Operation} (h : op.key ≠ key)
    (rest : List Operation) : addressed key (op :: rest) = addressed key rest :=
  List.filter_cons_of_neg (by rwa [decide_eq_true_eq])

/-- What a map has under the key of an operation afterwards. -/
theorem on_self {c : ChannelKey → Option Entry} {op : Operation} {key : ChannelKey}
    (h : op.key = key) : op.on c key = op.effect (c key) := by
  subst h
  exact Function.update_self ..

/-- Another key keeps its entry. -/
theorem on_other {c : ChannelKey → Option Entry} {op : Operation} {key : ChannelKey}
    (h : op.key ≠ key) : op.on c key = c key := Function.update_of_ne (Ne.symm h) ..

/-- **Maps that have the same entry of a key give it the same entry**, one by all operations and
the other by those on the key. -/
theorem foldl_on_addressed {c c' : ChannelKey → Option Entry} {key : ChannelKey}
    (same : c key = c' key) (ops : List Operation) :
    ops.foldl on c key = (addressed key ops).foldl on c' key := by
  induction ops generalizing c c' with
  | nil => exact same
  | cons op rest ih =>
    by_cases h : op.key = key
    · rw [addressed_cons_self h]
      refine ih ?_
      rw [on_self h, on_self h, same]
    · rw [addressed_cons_other h]
      refine ih ?_
      rw [on_other h, same]

/-- The operations on a key, each with what a map answers. -/
def dealings (c : ChannelKey → Option Entry) (key : ChannelKey) (ops : List Operation) :
    List (Operation × Option Entry) :=
  (ops.zip (answersOn c ops)).filter fun d => d.1.key = key

/-- Such maps answer the operations on the key alike. -/
theorem dealings_addressed {c c' : ChannelKey → Option Entry} {key : ChannelKey}
    (same : c key = c' key) (ops : List Operation) :
    dealings c key ops = (addressed key ops).zip (answersOn c' (addressed key ops)) := by
  induction ops generalizing c c' with
  | nil => rfl
  | cons op rest ih =>
    have first : dealings c key (op :: rest) =
        if op.key = key then (op, op.answer (c op.key)) :: dealings (op.on c) key rest
        else dealings (op.on c) key rest := by
      simp only [dealings, answersOn, List.zip_cons_cons, List.filter_cons, decide_eq_true_eq]
    by_cases h : op.key = key
    · have later : op.on c key = op.on c' key := by rw [on_self h, on_self h, same]
      rw [first, if_pos h, addressed_cons_self h, ih later, answersOn, List.zip_cons_cons, h, same]
    · have later : op.on c key = c' key := (on_other h).trans same
      rw [first, if_neg h, addressed_cons_other h, ih later]

/-- A map that keeps every entry under its own key goes on doing so. -/
theorem channel_on {c : ChannelKey → Option Entry} (own : ∀ k e, c k = some e → e.channel = k)
    (op : Operation) : ∀ k e, op.on c k = some e → e.channel = k := by
  intro k e he
  by_cases h : op.key = k
  · rw [on_self h] at he
    cases op with
    | get key => exact own k e he
    | putIfAbsent new =>
      cases present : c k with
      | none =>
        rw [present] at he
        cases he
        exact h
      | some old =>
        rw [present] at he
        exact own k e (present.trans he)
    | execute key m =>
      obtain ⟨old, present, rfl⟩ := Option.map_eq_some_iff.mp he
      rw [Mutation.channel_apply]
      exact own k old present
    | remove key => cases he
  · rw [on_other h] at he
    exact own k e he

theorem channel_foldl_on {c : ChannelKey → Option Entry}
    (own : ∀ k e, c k = some e → e.channel = k) (ops : List Operation) :
    ∀ k e, ops.foldl on c k = some e → e.channel = k := by
  induction ops generalizing c with
  | nil => exact own
  | cons op rest ih => exact ih (channel_on own op)

end Operation

/-- **A key nobody disturbs**, as far as operations one after another can tell: what is done to
other keys changes neither the answers to the operations on the key nor its entry, and the entry
is the key's own. -/
structure Undisturbed (s : Store) (key : ChannelKey) (ops : List Operation) : Prop where
  /-- The operations on the key are answered as if they were all there is. -/
  answers : (ops.zip (s.answers ops)).filter (fun d => d.1.key = key) =
    (Operation.addressed key ops).zip (s.answers (Operation.addressed key ops))
  /-- The key is left with the entry that they alone would leave. -/
  entry : entry? (s.after ops) key = entry? (s.after (Operation.addressed key ops)) key
  /-- The entry of the key is one of this channel. -/
  channel : ∀ e, entry? (s.after ops) key = some e → e.channel = key

theorem zip_answers (s : Store) (ops : List Operation) :
    ops.zip (s.answers ops) =
      (ops.zip (Operation.answersOn s.entry? ops)).map (Prod.map id .ok) := by
  rw [answers_eq, List.zip_map_right]

theorem undisturbed (kind : StoreKind) (key : ChannelKey) (ops : List Operation) :
    (ofKind kind).Undisturbed key ops where
  answers := by
    rw [zip_answers, zip_answers, List.filter_map]
    exact congrArg _ (Operation.dealings_addressed rfl ops)
  entry := by
    rw [entry?_after, entry?_after]
    exact Operation.foldl_on_addressed rfl ops
  channel e he := by
    rw [entry?_after] at he
    refine Operation.channel_foldl_on (fun k e none => ?_) ops key e he
    rw [entry?_ofKind] at none
    cases none

end Store

namespace Overlap

/-- The actions on a key. -/
def addressed (key : ChannelKey) (schedule : List Action) : List Action :=
  schedule.filter fun a => a.key = key

/-- **An action on another key is not seen.** -/
theorem view_perform_other (s : State) {a : Action} {key : ChannelKey} (h : a.key ≠ key) :
    (s.perform a).view key = s.view key := (view_perform s a key).trans (if_neg h)

/-- States that look the same to a key look the same to it afterwards, one after all actions of
a schedule and the other after those on the key. -/
theorem view_after_addressed {s s' : State} {key : ChannelKey} (same : s.view key = s'.view key)
    (schedule : List Action) :
    (s.after schedule).view key = (s'.after (addressed key schedule)).view key := by
  induction schedule generalizing s s' with
  | nil => exact same
  | cons a rest ih =>
    by_cases h : a.key = key
    · have own : addressed key (a :: rest) = a :: addressed key rest :=
        List.filter_cons_of_pos (decide_eq_true h)
      rw [own, after_cons, after_cons]
      refine ih ?_
      rw [view_perform, view_perform, same]
    · have skipped : addressed key (a :: rest) = addressed key rest :=
        List.filter_cons_of_neg (by rwa [decide_eq_true_eq])
      rw [skipped, after_cons]
      exact ih ((view_perform_other s h).trans same)

/-- The entries that concern a key are of its channel: the one that is stored, and those that
calls are about to swap in. -/
structure Own (key : ChannelKey) (v : View) : Prop where
  stored : ∀ w, v.stored = some w → w.entry.channel = key
  next : ∀ n c a version e, v.calls n = some c → c.phase = .swapping a version e → e.channel = key

namespace Own

variable {key : ChannelKey} {v : View}

theorem done (h : Own key v) (d : Deed) : Own key (v.done v.stored d) := ⟨h.stored, h.next⟩

theorem setPhase (h : Own key v) {n : Nat} {c : Call} {phase : Update.Phase}
    (own : ∀ a version e, phase = .swapping a version e → e.channel = key) :
    Own key (v.setPhase n c phase) := by
  refine ⟨h.stored, fun k c' a version e hc hp => ?_⟩
  by_cases hk : k = n
  · subst hk
    rw [View.calls_setPhase_self, Option.some.injEq] at hc
    subst hc
    exact own a version e hp
  · rw [View.calls_setPhase_of_ne hk] at hc
    exact h.next k c' a version e hc hp

end Own

theorem own_step {key : ChannelKey} (v : View) (a : Action) (v' : View) (h : Own key v)
    (step : Seen key v a v') : Own key v' := by
  cases step with
  | elsewhere _ => exact h
  | inserted e hk hs =>
    refine ⟨fun w hw => ?_, h.next⟩
    cases hw
    exact hk
  | present e w hk hs => exact h.done _
  | got => exact h.done _
  | removed =>
    refine ⟨fun w hw => ?_, h.next⟩
    cases hw
  | began n m limit hc =>
    refine ⟨h.stored, fun k c' a version e hc' hp => ?_⟩
    by_cases hk : k = n
    · subst hk
      simp only [Function.update_self, Option.some.injEq] at hc'
      subst hc'
      cases hp
    · simp only [Function.update_of_ne hk] at hc'
      exact h.next k c' a version e hc' hp
  | taken n m limit c hc => exact h
  | unknown n hc => exact h
  | loaded n c a hc hp =>
    -- What the call is about to swap in is its mutation of the entry it has just read.
    refine (h.done _).setPhase fun a' version e hp' => ?_
    cases hs : v.stored with
    | none => rw [hs] at hp'; cases hp'
    | some w =>
      rw [hs] at hp'
      cases hp'
      rw [Mutation.channel_apply]
      exact h.stored w hs
  | landed n c a w next hc hp hs =>
    have written : Own key (v.done (some { version := w.version + 1, entry := next })
        (.swapped ⟨key, n⟩ c.mutation w.version next true)) := by
      refine ⟨fun w' hw' => ?_, h.next⟩
      cases hw'
      exact h.next n c a w.version next hc hp
    exact written.setPhase fun _ _ _ hp' => by cases hp'
  | refused n c a version next hc hp hs =>
    refine (h.done _).setPhase fun a' version' e hp' => ?_
    unfold Update.refused at hp'
    split at hp' <;> cases hp'
  | settled n c r hc hp => exact h

theorem own_run (key : ChannelKey) (schedule : List Action) : Own key ((run schedule).view key) :=
  after_induction (fun _ => True) (fun v a v' h _ seen => own_step v a v' h seen)
    ⟨fun _ hw => (by cases hw), fun _ _ _ _ _ hc => (by cases hc)⟩ fun _ _ => trivial

/-- **A key nobody disturbs**, as far as calls that overlap can tell. -/
structure Undisturbed (key : ChannelKey) (schedule : List Action) : Prop where
  /-- All that concerns the key is as if the actions on it were all there is: the stored entry and
  its version, every answer of the table, and how far every call has come or what it returned. -/
  view : (run schedule).view key = (run (addressed key schedule)).view key
  /-- In particular an action on another key answers no load, refuses no swap and ends no call. -/
  step : ∀ a, a.key ≠ key → ((run schedule).perform a).view key = (run schedule).view key
  /-- The entry of the key is one of this channel. -/
  channel : ∀ w, (run schedule).table.load key = some w → w.entry.channel = key

theorem undisturbed (key : ChannelKey) (schedule : List Action) : Undisturbed key schedule where
  view := view_after_addressed rfl schedule
  step _ h := view_perform_other (run schedule) h
  channel := (own_run key schedule).stored

end Overlap

/-- **Channels are independent.** Whatever is done to a store of either kind, one operation after
another, and whatever is done to a versioned table by calls that overlap, nobody who uses a key
can tell what is done to the others. Every beginning of a run is a run, so this is so at every
moment. -/
theorem channels_independent (key : ChannelKey) :
    (∀ (kind : StoreKind) (ops : List Store.Operation), (Store.ofKind kind).Undisturbed key ops) ∧
      ∀ schedule : List Overlap.Action, Overlap.Undisturbed key schedule :=
  ⟨fun kind ops => Store.undisturbed kind key ops, Overlap.undisturbed key⟩

end ChannelRouting
