import ChannelRouting.Sorted.Order

/-!
# Sorted sets

A finite set kept as the strictly ascending list of its members. The ascent is
part of the type, so a set has one representation: two sets with the same
members are equal (`SortedSet.ext_mem`).

Each operation is pinned by what it does to membership (`mem_insert`,
`mem_ofList`, `mem_union`, `mem_erase`, `mem_diff`).
-/

namespace ChannelRouting

/-- A finite set, listed in strictly ascending order. -/
structure SortedSet (α : Type) [LT α] where
  toList : List α
  ascending : toList.Pairwise (· < ·)

namespace SortedSet

variable {α : Type} [LT α]

instance [DecidableEq α] : DecidableEq (SortedSet α) := fun s t =>
  if h : s.toList = t.toList then
    .isTrue (by cases s; cases t; cases h; rfl)
  else .isFalse (fun e => h (e ▸ rfl))

instance : Membership α (SortedSet α) := ⟨fun s a => a ∈ s.toList⟩

instance [DecidableEq α] (a : α) (s : SortedSet α) : Decidable (a ∈ s) :=
  inferInstanceAs (Decidable (a ∈ s.toList))

theorem mem_def {a : α} {s : SortedSet α} : a ∈ s ↔ a ∈ s.toList := Iff.rfl

def empty : SortedSet α := ⟨[], .nil⟩

instance : Inhabited (SortedSet α) := ⟨empty⟩

@[simp] theorem toList_empty : (empty : SortedSet α).toList = [] := rfl

def isEmpty (s : SortedSet α) : Bool := s.toList.isEmpty

def filter (p : α → Bool) (s : SortedSet α) : SortedSet α :=
  ⟨s.toList.filter p, s.ascending.filter p⟩

@[simp] theorem mem_filter {p : α → Bool} {s : SortedSet α} {a : α} :
    a ∈ s.filter p ↔ a ∈ s ∧ p a = true := by
  simp [mem_def, filter]

def contains [DecidableEq α] (s : SortedSet α) (a : α) : Bool := decide (a ∈ s)

def erase [DecidableEq α] (s : SortedSet α) (a : α) : SortedSet α :=
  s.filter (· ≠ a)

@[simp] theorem mem_erase [DecidableEq α] {s : SortedSet α} {a b : α} :
    b ∈ s.erase a ↔ b ∈ s ∧ b ≠ a := by
  simp [erase]

def diff [DecidableEq α] (s : SortedSet α) (l : List α) : SortedSet α :=
  s.filter (fun a => !decide (a ∈ l))

@[simp] theorem mem_diff [DecidableEq α] {s : SortedSet α} {l : List α} {a : α} :
    a ∈ s.diff l ↔ a ∈ s ∧ a ∉ l := by
  simp [diff]

section Insert

variable [DecidableLT α]

/-- A key put at its place in an ascending list. -/
def place (a : α) : List α → List α
  | [] => [a]
  | b :: l => if a < b then a :: b :: l else if b < a then b :: place a l else b :: l

theorem mem_place [KeyOrder α] {a x : α} {l : List α} :
    x ∈ place a l ↔ x = a ∨ x ∈ l := by
  induction l with
  | nil => simp [place]
  | cons b l ih =>
    simp only [place]
    split
    · simp
    · split
      · simp only [List.mem_cons, ih]
        constructor
        · rintro (h | h | h) <;> simp [h]
        · rintro (h | h | h) <;> simp [h]
      · next h₁ h₂ =>
        have : a = b := KeyOrder.eq_of_not_lt h₁ h₂
        simp [this]

theorem ascending_place [KeyOrder α] {a : α} {l : List α} (h : l.Pairwise (· < ·)) :
    (place a l).Pairwise (· < ·) := by
  induction l with
  | nil => simp [place]
  | cons b l ih =>
    obtain ⟨hb, hl⟩ := List.pairwise_cons.mp h
    simp only [place]
    split
    · next hab =>
      refine List.pairwise_cons.mpr ⟨fun x hx => ?_, h⟩
      rcases List.mem_cons.mp hx with rfl | hx
      · exact hab
      · exact KeyOrder.trans hab (hb x hx)
    · split
      · next hba =>
        refine List.pairwise_cons.mpr ⟨fun x hx => ?_, ih hl⟩
        rcases mem_place.mp hx with rfl | hx
        · exact hba
        · exact hb x hx
      · exact h

variable [KeyOrder α]

def insert (s : SortedSet α) (a : α) : SortedSet α :=
  ⟨place a s.toList, ascending_place s.ascending⟩

@[simp] theorem mem_insert {s : SortedSet α} {a b : α} :
    b ∈ s.insert a ↔ b = a ∨ b ∈ s := mem_place

def insertAll (s : SortedSet α) (l : List α) : SortedSet α := l.foldl insert s

@[simp] theorem mem_insertAll {s : SortedSet α} {l : List α} {a : α} :
    a ∈ s.insertAll l ↔ a ∈ s ∨ a ∈ l := by
  induction l generalizing s with
  | nil => simp [insertAll]
  | cons b l ih =>
    show a ∈ (s.insert b).insertAll l ↔ _
    rw [ih, mem_insert, List.mem_cons]
    constructor
    · rintro ((h | h) | h) <;> simp [h]
    · rintro (h | h | h) <;> simp [h]

def ofList (l : List α) : SortedSet α := empty.insertAll l

@[simp] theorem mem_ofList {l : List α} {a : α} : a ∈ ofList l ↔ a ∈ l := by
  simp [ofList, mem_def (s := empty)]

end Insert

/-- Two ascending lists with the same members are equal. -/
theorem eq_of_ascending [KeyOrder α] {l m : List α} (hl : l.Pairwise (· < ·))
    (hm : m.Pairwise (· < ·)) (h : ∀ a, a ∈ l ↔ a ∈ m) : l = m := by
  induction l generalizing m with
  | nil =>
    cases m with
    | nil => rfl
    | cons b m => exact absurd ((h b).mpr (by simp)) (by simp)
  | cons a l ih =>
    cases m with
    | nil => exact absurd ((h a).mp (by simp)) (by simp)
    | cons b m =>
      obtain ⟨ha, hl'⟩ := List.pairwise_cons.mp hl
      obtain ⟨hb, hm'⟩ := List.pairwise_cons.mp hm
      have hab : a = b := by
        rcases List.mem_cons.mp ((h a).mp (by simp)) with e | e
        · exact e
        · rcases List.mem_cons.mp ((h b).mpr (by simp)) with e' | e'
          · exact e'.symm
          · exact absurd (hb a e) (KeyOrder.asymm (ha b e'))
      subst hab
      rw [ih hl' hm' fun x => ?_]
      constructor
      · intro hx
        rcases List.mem_cons.mp ((h x).mp (by simp [hx])) with e | e
        · exact absurd (e ▸ ha x hx) (KeyOrder.irrefl _)
        · exact e
      · intro hx
        rcases List.mem_cons.mp ((h x).mpr (by simp [hx])) with e | e
        · exact absurd (e ▸ hb x hx) (KeyOrder.irrefl _)
        · exact e

/-- Sets with the same members are equal. -/
theorem ext_mem [KeyOrder α] {s t : SortedSet α} (h : ∀ a, a ∈ s ↔ a ∈ t) : s = t := by
  cases s with
  | mk l hl =>
    cases t with
    | mk m hm =>
      have : l = m := eq_of_ascending hl hm h
      subst this
      rfl

/-- A set is the set of its members. -/
theorem ofList_toList [DecidableLT α] [KeyOrder α] (s : SortedSet α) : ofList s.toList = s :=
  ext_mem fun _ => mem_ofList

end SortedSet

end ChannelRouting
