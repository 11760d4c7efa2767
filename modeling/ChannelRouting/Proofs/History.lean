/-!
# Histories

A history is a list to which things are added at the end. Most of what is said of one
is said of every point of it: how what happened there stands to all that happened
before. `Throughout` is that shape, and `throughout_concat` the way such a fact is
kept: it held before, and it holds of what was added.
-/

namespace ChannelRouting

variable {α β : Type}

/-- Every element of a list stands in a relation to the elements before it. -/
def Throughout (P : List α → α → Prop) (l : List α) : Prop :=
  ∀ (i : Nat) (a : α), l[i]? = some a → P (l.take i) a

theorem throughout_nil {P : List α → α → Prop} : Throughout P [] := fun _ _ h => nomatch h

theorem throughout_concat {P : List α → α → Prop} {l : List α} {a : α} (h : Throughout P l)
    (last : P l a) : Throughout P (l ++ [a]) := by
  intro i b hi
  rcases Nat.lt_trichotomy i l.length with before | rfl | beyond
  · rw [List.getElem?_append_left before] at hi
    rw [List.take_append_of_le_length (Nat.le_of_lt before)]
    exact h i b hi
  · rw [List.getElem?_concat_length] at hi
    cases hi
    rw [List.take_left]
    exact last
  · rw [List.getElem?_eq_none (by simp only [List.length_append, List.length_singleton]; omega)] at hi
    cases hi

/-- Several things are added, each of which stands in the relation to all before it. -/
theorem throughout_append {P : List α → α → Prop} {l new : List α} (h : Throughout P l)
    (added : Throughout (fun before a => P (l ++ before) a) new) : Throughout P (l ++ new) := by
  induction new generalizing l with
  | nil =>
    rw [List.append_nil]
    exact h
  | cons a rest ih =>
    have first : P l a := by
      have := added 0 a rfl
      rwa [List.take_zero, List.append_nil] at this
    rw [List.append_cons]
    refine ih (throughout_concat h first) fun i b hb => ?_
    have := added (i + 1) b hb
    rwa [List.take_succ_cons, List.append_cons] at this

/-- What was picked out of the beginning of a list is the beginning of what is picked out
of all of it. -/
theorem filterMap_take (f : α → Option β) (l : List α) (i : Nat) :
    (l.take i).filterMap f = (l.filterMap f).take ((l.take i).filterMap f).length := by
  have split : l.filterMap f = (l.take i).filterMap f ++ (l.drop i).filterMap f := by
    rw [← List.filterMap_append, List.take_append_drop]
  rw [split, List.take_left]

/-- A pick that finds only what another finds too finds it in the same order. -/
theorem filterMap_sublist {f g : α → Option β} (h : ∀ a, f a = none ∨ f a = g a) (l : List α) :
    (l.filterMap f).Sublist (l.filterMap g) := by
  induction l with
  | nil => exact List.Sublist.refl []
  | cons a rest ih =>
    rcases h a with hf | hf
    · rw [List.filterMap_cons_none hf]
      cases hg : g a with
      | none =>
        rw [List.filterMap_cons_none hg]
        exact ih
      | some b =>
        rw [List.filterMap_cons_some hg]
        exact ih.cons b
    · cases hg : g a with
      | none =>
        rw [List.filterMap_cons_none hg, List.filterMap_cons_none (hf.trans hg)]
        exact ih
      | some b =>
        rw [List.filterMap_cons_some hg, List.filterMap_cons_some (hf.trans hg)]
        exact ih.cons_cons b

/-- The more of a list is looked at, the more is picked out. -/
theorem length_filterMap_take_mono (f : α → Option β) (l : List α) {i j : Nat} (h : i ≤ j) :
    ((l.take i).filterMap f).length ≤ ((l.take j).filterMap f).length := by
  have sub : (l.take i).Sublist (l.take j) := (List.take_prefix_take_left h).sublist
  exact (sub.filterMap f).length_le

end ChannelRouting
