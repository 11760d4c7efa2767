import ChannelRouting.Sorted.Order

/-!
# Sorted maps

A finite map kept as its entries in strictly ascending order of their keys.
The ascent is part of the type, so a map has one representation.

`get?` is the view of a map: `get?_insert_self`, `get?_insert_of_ne`,
`get?_erase_self` and `get?_erase_of_ne` say what each operation does to it, and
`ext_get?` that it determines the map.
-/

namespace ChannelRouting

/-- A finite map, its entries listed in strictly ascending order of the keys. -/
structure SortedMap (α β : Type) [LT α] where
  toList : List (α × β)
  ascending : toList.Pairwise (fun p q => p.1 < q.1)

namespace SortedMap

variable {α β : Type} [LT α]

instance [DecidableEq α] [DecidableEq β] : DecidableEq (SortedMap α β) := fun s t =>
  if h : s.toList = t.toList then
    .isTrue (by cases s; cases t; cases h; rfl)
  else .isFalse (fun e => h (e ▸ rfl))

def empty : SortedMap α β := ⟨[], .nil⟩

instance : Inhabited (SortedMap α β) := ⟨empty⟩

def keys (m : SortedMap α β) : List α := m.toList.map Prod.fst

/-- The values in the order of their keys. -/
def values (m : SortedMap α β) : List β := m.toList.map Prod.snd

def size (m : SortedMap α β) : Nat := m.toList.length

section Lookup

variable [DecidableLT α]

/-- The value under a key in an ascending list of entries. -/
def find (k : α) : List (α × β) → Option β
  | [] => none
  | p :: l => if k < p.1 then none else if p.1 < k then find k l else some p.2

/-- An entry put at its place, over the one its key had. -/
def place (k : α) (v : β) : List (α × β) → List (α × β)
  | [] => [(k, v)]
  | p :: l =>
    if k < p.1 then (k, v) :: p :: l
    else if p.1 < k then p :: place k v l
    else (k, v) :: l

def remove (k : α) : List (α × β) → List (α × β)
  | [] => []
  | p :: l => if k < p.1 then p :: l else if p.1 < k then p :: remove k l else l

theorem mem_place {k : α} {v : β} {l : List (α × β)} {p : α × β} (h : p ∈ place k v l) :
    p = (k, v) ∨ p ∈ l := by
  induction l with
  | nil => simpa [place] using h
  | cons q l ih =>
    simp only [place] at h
    split at h
    · simpa using h
    · split at h
      · rcases List.mem_cons.mp h with e | e
        · simp [e]
        · rcases ih e with e | e <;> simp [e]
      · rcases List.mem_cons.mp h with e | e <;> simp [e]

theorem mem_of_mem_remove {k : α} {l : List (α × β)} {p : α × β} (h : p ∈ remove k l) :
    p ∈ l := by
  induction l with
  | nil => simp [remove] at h
  | cons q l ih =>
    simp only [remove] at h
    split at h
    · exact h
    · split at h
      · rcases List.mem_cons.mp h with e | e
        · simp [e]
        · simp [ih e]
      · simp [h]

variable [KeyOrder α]

theorem ascending_place {k : α} {v : β} {l : List (α × β)}
    (h : l.Pairwise (fun p q => p.1 < q.1)) :
    (place k v l).Pairwise (fun p q => p.1 < q.1) := by
  induction l with
  | nil => simp [place]
  | cons q l ih =>
    obtain ⟨hq, hl⟩ := List.pairwise_cons.mp h
    simp only [place]
    split
    · next hk =>
      refine List.pairwise_cons.mpr ⟨fun x hx => ?_, h⟩
      rcases List.mem_cons.mp hx with rfl | hx
      · exact hk
      · exact KeyOrder.trans hk (hq x hx)
    · split
      · next hk =>
        refine List.pairwise_cons.mpr ⟨fun x hx => ?_, ih hl⟩
        rcases mem_place hx with rfl | hx
        · exact hk
        · exact hq x hx
      · next h₁ h₂ =>
        have e : k = q.1 := KeyOrder.eq_of_not_lt h₁ h₂
        exact List.pairwise_cons.mpr ⟨fun x hx => e ▸ hq x hx, hl⟩

omit [KeyOrder α] in
theorem ascending_remove {k : α} {l : List (α × β)}
    (h : l.Pairwise (fun p q => p.1 < q.1)) :
    (remove k l).Pairwise (fun p q => p.1 < q.1) := by
  induction l with
  | nil => simp [remove]
  | cons q l ih =>
    obtain ⟨hq, hl⟩ := List.pairwise_cons.mp h
    simp only [remove]
    split
    · exact h
    · split
      · exact List.pairwise_cons.mpr ⟨fun x hx => hq x (mem_of_mem_remove hx), ih hl⟩
      · exact hl

theorem find_place_self {k : α} {v : β} {l : List (α × β)} : find k (place k v l) = some v := by
  induction l with
  | nil => simp [place, find, KeyOrder.irrefl]
  | cons q l ih =>
    simp only [place]
    split
    · simp [find, KeyOrder.irrefl]
    · split
      · next h₁ h₂ => simp [find, h₁, h₂, ih]
      · simp [find, KeyOrder.irrefl]

theorem find_place_of_ne {k x : α} {v : β} {l : List (α × β)} (hx : x ≠ k) :
    find x (place k v l) = find x l := by
  induction l with
  | nil =>
    simp only [place, find]
    split
    · rfl
    · split
      · rfl
      · next h₁ h₂ => exact absurd (KeyOrder.eq_of_not_lt h₁ h₂) hx
  | cons q l ih =>
    simp only [place]
    split
    · next hk =>
      by_cases h₁ : x < k
      · simp [find, h₁, KeyOrder.trans h₁ hk]
      · have h₂ : k < x := by
          rcases KeyOrder.trichotomy x k with h | h | h
          · exact absurd h h₁
          · exact absurd h hx
          · exact h
        simp [find, h₁, h₂]
    · split
      · simp only [find, ih]
      · next h₁ h₂ =>
        have e : k = q.1 := KeyOrder.eq_of_not_lt h₁ h₂
        simp only [find]
        by_cases h₃ : x < k
        · simp [h₃, ← e]
        · have h₄ : k < x := by
            rcases KeyOrder.trichotomy x k with h | h | h
            · exact absurd h h₃
            · exact absurd h hx
            · exact h
          simp [← e, h₃, h₄]

omit [KeyOrder α] in
theorem find_eq_none_of_lt {k : α} {l : List (α × β)} (h : ∀ p ∈ l, k < p.1) :
    find k l = none := by
  cases l with
  | nil => rfl
  | cons q l => simp [find, h q (by simp)]

theorem find_remove_self {k : α} {l : List (α × β)}
    (h : l.Pairwise (fun p q => p.1 < q.1)) : find k (remove k l) = none := by
  induction l with
  | nil => rfl
  | cons q l ih =>
    obtain ⟨hq, hl⟩ := List.pairwise_cons.mp h
    simp only [remove]
    split
    · next hk => simp [find, hk]
    · split
      · next h₁ h₂ => simp [find, h₁, h₂, ih hl]
      · next h₁ h₂ =>
        have e : k = q.1 := KeyOrder.eq_of_not_lt h₁ h₂
        exact find_eq_none_of_lt fun p hp => e ▸ hq p hp

theorem find_remove_of_ne {k x : α} {l : List (α × β)}
    (h : l.Pairwise (fun p q => p.1 < q.1)) (hx : x ≠ k) :
    find x (remove k l) = find x l := by
  induction l with
  | nil => rfl
  | cons q l ih =>
    obtain ⟨hq, hl⟩ := List.pairwise_cons.mp h
    simp only [remove]
    split
    · rfl
    · split
      · simp only [find, ih hl]
      · next h₁ h₂ =>
        have e : k = q.1 := KeyOrder.eq_of_not_lt h₁ h₂
        by_cases h₃ : x < k
        · have : ∀ p ∈ l, x < p.1 := fun p hp => KeyOrder.trans h₃ (e ▸ hq p hp)
          simp [find, ← e, h₃, find_eq_none_of_lt this]
        · have h₄ : k < x := by
            rcases KeyOrder.trichotomy x k with h | h | h
            · exact absurd h h₃
            · exact absurd h hx
            · exact h
          simp [find, ← e, h₃, h₄]

end Lookup

variable [DecidableLT α]

def get? (m : SortedMap α β) (k : α) : Option β := find k m.toList

def contains (m : SortedMap α β) (k : α) : Bool := (m.get? k).isSome

@[simp] theorem get?_empty (k : α) : (empty : SortedMap α β).get? k = none := rfl

variable [KeyOrder α]

/-- The map with a value put under a key, over the one it had. -/
def insert (m : SortedMap α β) (k : α) (v : β) : SortedMap α β :=
  ⟨place k v m.toList, ascending_place m.ascending⟩

def erase (m : SortedMap α β) (k : α) : SortedMap α β :=
  ⟨remove k m.toList, ascending_remove m.ascending⟩

@[simp] theorem get?_insert_self {m : SortedMap α β} {k : α} {v : β} :
    (m.insert k v).get? k = some v := find_place_self

theorem get?_insert_of_ne {m : SortedMap α β} {k x : α} {v : β} (h : x ≠ k) :
    (m.insert k v).get? x = m.get? x := find_place_of_ne h

@[simp] theorem get?_erase_self {m : SortedMap α β} {k : α} : (m.erase k).get? k = none :=
  find_remove_self m.ascending

theorem get?_erase_of_ne {m : SortedMap α β} {k x : α} (h : x ≠ k) :
    (m.erase k).get? x = m.get? x := find_remove_of_ne m.ascending h

/-- The map with the listed entries, a later one over an earlier of its key. -/
def ofList (l : List (α × β)) : SortedMap α β := l.foldl (fun m p => m.insert p.1 p.2) empty

/-- The map with one value changed where the key has one. -/
def modify (m : SortedMap α β) (k : α) (f : β → β) : SortedMap α β :=
  match m.get? k with
  | some v => m.insert k (f v)
  | none => m

/-- An entry of an ascending list is found under its key. -/
theorem find_eq_some_iff {l : List (α × β)}
    (h : l.Pairwise (fun p q => p.1 < q.1)) {k : α} {v : β} :
    find k l = some v ↔ (k, v) ∈ l := by
  induction l with
  | nil => simp [find]
  | cons q l ih =>
    obtain ⟨hq, hl⟩ := List.pairwise_cons.mp h
    simp only [find]
    split
    · next hk =>
      constructor
      · intro h; cases h
      · intro hm
        rcases List.mem_cons.mp hm with e | e
        · exact absurd (by rw [← e] at hk; exact hk) (KeyOrder.irrefl k)
        · exact absurd (KeyOrder.trans hk (hq _ e)) (KeyOrder.irrefl k)
    · split
      · next h₁ h₂ =>
        rw [ih hl]
        constructor
        · intro hm; exact List.mem_cons_of_mem _ hm
        · intro hm
          rcases List.mem_cons.mp hm with e | e
          · exact absurd (by rw [← e] at h₂; exact h₂) (KeyOrder.irrefl k)
          · exact e
      · next h₁ h₂ =>
        have e : k = q.1 := KeyOrder.eq_of_not_lt h₁ h₂
        constructor
        · intro h
          have : q = (k, v) := by
            cases q
            simp only [Option.some.injEq] at h
            simp_all
          simp [this]
        · intro hm
          rcases List.mem_cons.mp hm with e' | e'
          · rw [← e']
          · exact absurd (hq _ e') (e ▸ KeyOrder.irrefl _)

/-- The entries of a map are those it gives under their keys. -/
theorem mem_toList {m : SortedMap α β} {p : α × β} : p ∈ m.toList ↔ m.get? p.1 = some p.2 :=
  (find_eq_some_iff m.ascending).symm

/-- Ascending lists of entries that answer every key alike are equal. -/
theorem eq_of_find {l m : List (α × β)} (hl : l.Pairwise (fun p q => p.1 < q.1))
    (hm : m.Pairwise (fun p q => p.1 < q.1)) (h : ∀ k, find k l = find k m) : l = m := by
  induction l generalizing m with
  | nil =>
    cases m with
    | nil => rfl
    | cons q m =>
      have := h q.1
      simp [find, KeyOrder.irrefl] at this
  | cons p l ih =>
    cases m with
    | nil =>
      have := h p.1
      simp [find, KeyOrder.irrefl] at this
    | cons q m =>
      obtain ⟨hp, hl'⟩ := List.pairwise_cons.mp hl
      obtain ⟨hq, hm'⟩ := List.pairwise_cons.mp hm
      have hp' := h p.1
      have hq' := h q.1
      simp only [find, if_neg (KeyOrder.irrefl p.1)] at hp'
      simp only [find, if_neg (KeyOrder.irrefl q.1)] at hq'
      have e : p.1 = q.1 := by
        rcases KeyOrder.trichotomy p.1 q.1 with e | e | e
        · simp [e] at hp'
        · exact e
        · simp [e] at hq'
      simp only [e, if_neg (KeyOrder.irrefl q.1), Option.some.injEq] at hp'
      have hpq : p = q := Prod.ext e hp'
      subst hpq
      rw [ih hl' hm' fun k => ?_]
      by_cases h₁ : p.1 < k
      · have := h k
        simpa [find, h₁, KeyOrder.asymm h₁] using this
      · have hlt : ∀ r : List (α × β), (∀ x ∈ r, p.1 < x.1) → find k r = none := fun r hr =>
          find_eq_none_of_lt fun x hx => by
            rcases KeyOrder.trichotomy k p.1 with e | e | e
            · exact KeyOrder.trans e (hr x hx)
            · exact e ▸ hr x hx
            · exact absurd e h₁
        rw [hlt l hp, hlt m hq]

/-- Maps that answer every key alike are equal. -/
theorem ext_get? {s t : SortedMap α β} (h : ∀ k, s.get? k = t.get? k) : s = t := by
  cases s with
  | mk l hl =>
    cases t with
    | mk m hm =>
      have : l = m := eq_of_find hl hm h
      subst this
      rfl

/-- Values are put under different keys in either order. -/
theorem insert_comm {m : SortedMap α β} {k x : α} {v w : β} (h : k ≠ x) :
    (m.insert k v).insert x w = (m.insert x w).insert k v := by
  refine ext_get? fun y => ?_
  by_cases hx : y = x
  · subst hx
    rw [get?_insert_self, get?_insert_of_ne h.symm, get?_insert_self]
  · rw [get?_insert_of_ne hx]
    by_cases hk : y = k
    · subst hk
      rw [get?_insert_self, get?_insert_self]
    · rw [get?_insert_of_ne hk, get?_insert_of_ne hk, get?_insert_of_ne hx]

/-- What a map answers once ascending entries are put into it. -/
theorem get?_foldl_insert {l : List (α × β)} (h : l.Pairwise (fun p q => p.1 < q.1))
    (m : SortedMap α β) (k : α) :
    (l.foldl (fun m p => m.insert p.1 p.2) m).get? k = (find k l).or (m.get? k) := by
  induction l generalizing m with
  | nil => rfl
  | cons p l ih =>
    obtain ⟨hp, hl⟩ := List.pairwise_cons.mp h
    rw [List.foldl_cons, ih hl, find]
    split
    · next lower =>
      have behind : find k l = none :=
        find_eq_none_of_lt fun q hq => KeyOrder.trans lower (hp q hq)
      rw [behind, Option.none_or, Option.none_or, get?_insert_of_ne (KeyOrder.ne_of_lt lower)]
    · split
      · next higher => rw [get?_insert_of_ne (KeyOrder.ne_of_lt higher).symm]
      · next h₁ h₂ =>
        have own : k = p.1 := KeyOrder.eq_of_not_lt h₁ h₂
        rw [own, find_eq_none_of_lt hp, Option.none_or, get?_insert_self, Option.some_or]

/-- A map is the map of its entries. -/
theorem ofList_toList (m : SortedMap α β) : ofList m.toList = m :=
  ext_get? fun k => by rw [ofList, get?_foldl_insert m.ascending, get?_empty, Option.or_none, get?]

end SortedMap

end ChannelRouting
