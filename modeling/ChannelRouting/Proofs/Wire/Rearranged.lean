import ChannelRouting.Json
import Mathlib.Logic.Relation

/-!
# The order of members

Two members of an object that have different names may stand in either order. `Json.Exchanged` is
one such exchange of neighbours, anywhere in a tree, and `Json.Rearranged` any number of them; a
member keeps its place among the members of its own name. Where all names of an object are
different, any order is reached (`Json.rearranged_of_perm`).

A reader is `Orderless` if it takes from a tree whatever it takes from the tree before an
exchange. There is one lemma for each way in which readers are put together: fields and items
that are read by orderless readers make an orderless reader, provided that the fields of a record
keep `Apart`.
-/

namespace ChannelRouting

namespace Json

/-- **One exchange of neighbours** that have different names, somewhere in the tree. -/
inductive Exchanged : Json → Json → Prop
  | members (before after : List (String × Json)) {p q : String × Json} (different : p.1 ≠ q.1) :
      Exchanged (.obj (before ++ p :: q :: after)) (.obj (before ++ q :: p :: after))
  | member (before after : List (String × Json)) (name : String) {j k : Json} :
      Exchanged j k → Exchanged (.obj (before ++ (name, j) :: after))
        (.obj (before ++ (name, k) :: after))
  | item (before after : List Json) {j k : Json} :
      Exchanged j k → Exchanged (.arr (before ++ j :: after)) (.arr (before ++ k :: after))

/-- **The same tree but for the order of members** of different names. -/
def Rearranged : Json → Json → Prop := Relation.ReflTransGen Exchanged

/-- A reader that takes from a tree what it takes before an exchange. -/
def Orderless {α : Type} (read : Json → Decoded α) : Prop :=
  ∀ ⦃j k⦄, Exchanged j k → ∀ ⦃x⦄, read j = .ok x → read k = .ok x

theorem Orderless.rearranged {α : Type} {read : Json → Decoded α} (orderless : Orderless read)
    {j k : Json} (same : j.Rearranged k) {x : α} (taken : read j = .ok x) : read k = .ok x := by
  induction same with
  | refl => exact taken
  | tail _ last ih => exact orderless last ih

/-- Members of different names in any order. -/
theorem rearranged_of_perm {members shuffled : List (String × Json)}
    (distinct : (members.map Prod.fst).Nodup) (same : members.Perm shuffled) :
    (obj members).Rearranged (obj shuffled) := by
  suffices behind : ∀ before,
      (obj (before ++ members)).Rearranged (obj (before ++ shuffled)) from behind []
  induction same with
  | nil => exact fun _ => .refl
  | cons p _ ih =>
    intro before
    have rest := ih (List.nodup_cons.mp distinct).2 (before ++ [p])
    rwa [List.append_assoc, List.append_assoc] at rest
  | swap p q l =>
    intro before
    have different : q.1 ≠ p.1 := fun same =>
      (List.nodup_cons.mp distinct).1 (List.mem_cons.mpr (.inl same))
    exact .single (.members before l different)
  | trans first _ ih ih' =>
    intro before
    exact (ih distinct before).trans
      (ih' ((first.map Prod.fst).nodup_iff.mp distinct) before)

/-! ## Readings that succeed -/

theorem bind_eq_ok {α β : Type} {x : Decoded α} {f : α → Decoded β} {b : β} :
    (x >>= f) = .ok b ↔ ∃ a, x = .ok a ∧ f a = .ok b := by
  cases x with
  | error e => exact ⟨fun h => (by cases h), fun ⟨_, h, _⟩ => (by cases h)⟩
  | ok a => exact ⟨fun h => ⟨a, rfl, h⟩, fun ⟨_, h, h'⟩ => (by cases h; exact h')⟩

section Fold

variable {D β : Type} {step : D → β → Decoded D}

/-- Two neighbours of a fold change places if their steps do. -/
theorem foldlM_exchanged {p q : β} (before after : List β)
    (apart : ∀ d e, (step d p >>= fun d => step d q) = .ok e →
      (step d q >>= fun d => step d p) = .ok e) {d e : D}
    (taken : (before ++ p :: q :: after).foldlM step d = .ok e) :
    (before ++ q :: p :: after).foldlM step d = .ok e := by
  simp only [List.foldlM_append, List.foldlM_cons] at taken ⊢
  obtain ⟨d₁, first, taken⟩ := bind_eq_ok.mp taken
  rw [← bind_assoc] at taken
  obtain ⟨d₂, both, taken⟩ := bind_eq_ok.mp taken
  refine bind_eq_ok.mpr ⟨d₁, first, ?_⟩
  rw [← bind_assoc]
  exact bind_eq_ok.mpr ⟨d₂, apart d₁ d₂ both, taken⟩

/-- An element of a fold gives way to another of the same step. -/
theorem foldlM_replaced {p q : β} (before after : List β)
    (same : ∀ d e, step d p = .ok e → step d q = .ok e) {d e : D}
    (taken : (before ++ p :: after).foldlM step d = .ok e) :
    (before ++ q :: after).foldlM step d = .ok e := by
  simp only [List.foldlM_append, List.foldlM_cons] at taken ⊢
  obtain ⟨d₁, first, taken⟩ := bind_eq_ok.mp taken
  obtain ⟨d₂, second, taken⟩ := bind_eq_ok.mp taken
  exact bind_eq_ok.mpr ⟨d₁, first, bind_eq_ok.mpr ⟨d₂, same d₁ d₂ second, taken⟩⟩

theorem mapM_replaced {α : Type} {read : β → Decoded α} {j k : β} (before after : List β)
    (same : ∀ x, read j = .ok x → read k = .ok x) {xs : List α}
    (taken : (before ++ j :: after).mapM read = .ok xs) :
    (before ++ k :: after).mapM read = .ok xs := by
  simp only [List.mapM_append, List.mapM_cons] at taken ⊢
  obtain ⟨first, read_first, taken⟩ := bind_eq_ok.mp taken
  obtain ⟨others, read_others, taken⟩ := bind_eq_ok.mp taken
  obtain ⟨x, read_x, read_others⟩ := bind_eq_ok.mp read_others
  exact bind_eq_ok.mpr ⟨first, read_first,
    bind_eq_ok.mpr ⟨others, bind_eq_ok.mpr ⟨x, same x read_x, read_others⟩, taken⟩⟩

end Fold

/-! ## Readers of parts -/

section Readers

variable {α β : Type} {read : Json → Decoded α}

/-- There is nothing to exchange in what is neither an array nor an object. -/
theorem orderless_of_leaf (no_array : ∀ items x, read (.arr items) ≠ .ok x)
    (no_object : ∀ members x, read (.obj members) ≠ .ok x) : Orderless read := by
  intro j k exchanged x taken
  cases exchanged with
  | members before after different => exact absurd taken (no_object _ x)
  | member before after name inner => exact absurd taken (no_object _ x)
  | item before after inner => exact absurd taken (no_array _ x)

theorem orderless_asString : Orderless asString :=
  orderless_of_leaf (fun _ _ taken => by cases taken) (fun _ _ taken => by cases taken)

theorem orderless_asNatBelow (bound : Nat) : Orderless (asNatBelow bound) :=
  orderless_of_leaf (fun _ _ taken => by cases taken) (fun _ _ taken => by cases taken)

/-- What is made of a value that was read. -/
theorem Orderless.bind (orderless : Orderless read) (f : α → Decoded β) :
    Orderless fun j => read j >>= f := by
  intro j k exchanged x taken
  obtain ⟨a, read_a, taken⟩ := bind_eq_ok.mp taken
  exact bind_eq_ok.mpr ⟨a, orderless exchanged read_a, taken⟩

theorem Orderless.map (orderless : Orderless read) (f : α → β) :
    Orderless fun j => f <$> read j := by
  simp only [map_eq_pure_bind]
  exact orderless.bind _

/-- The elements of a list. -/
theorem Orderless.asList (orderless : Orderless read) : Orderless (asList read) := by
  intro j k exchanged xs taken
  cases exchanged with
  | members before after different => cases taken
  | member before after name inner => cases taken
  | item before after inner =>
    exact mapM_replaced before after (fun x => orderless inner (x := x)) taken

theorem orderless_asStrings : Orderless asStrings := orderless_asString.asList

theorem orderless_asBytes : Orderless asBytes :=
  ((orderless_asNatBelow 256).bind _).asList

theorem Orderless.asOption (orderless : Orderless read) : Orderless (asOption read) := by
  intro j k exchanged x taken
  have some_read := orderless.map some exchanged (x := x)
  cases exchanged with
  | members before after different => exact some_read taken
  | member before after name inner => exact some_read taken
  | item before after inner => exact some_read taken

theorem orderless_asHeaders : Orderless asHeaders := by
  intro j k exchanged h taken
  cases exchanged with
  | members before after different =>
    refine foldlM_exchanged before after (fun d e both => ?_) taken
    obtain ⟨d₁, first, second⟩ := bind_eq_ok.mp both
    obtain ⟨v, read_v, first⟩ := bind_eq_ok.mp first
    obtain ⟨w, read_w, second⟩ := bind_eq_ok.mp second
    cases first
    cases second
    simp only [read_v, read_w]
    exact congrArg Except.ok (SortedMap.insert_comm different.symm)
  | member before after name inner =>
    refine foldlM_replaced before after (fun d e step => ?_) taken
    exact orderless_asString.bind _ inner step
  | item before after inner => cases taken

end Readers

end Json

/-! ## Records -/

namespace Record

variable {V D : Type}

/-- Reading a field neither shows on another nor depends on it. -/
def Field.Clear (f g : Field V D) : Prop :=
  ∀ v d d₁, f.read v d = .ok d₁ → g.isRead d₁ = g.isRead d ∧
    ∀ w e, g.read w d₁ = .ok e → ∃ d₂, g.read w d = .ok d₂ ∧ f.read v d₂ = .ok e

/-- **Fields that keep apart.** -/
def Apart (fields : List (Field V D)) : Prop :=
  ∀ f ∈ fields, ∀ g ∈ fields, f.name ≠ g.name → f.Clear g

/-- Two fields keep apart that put what they decode at different places of the draft. -/
theorem clear_of_places {α β : Type} {f g : Field V D} {decode : V → Decoded α}
    {put : α → D → D} {decode' : V → Decoded β} {put' : β → D → D}
    (reads : ∀ v d, f.read v d = decode v >>= fun a => .ok (put a d))
    (reads' : ∀ v d, g.read v d = decode' v >>= fun b => .ok (put' b d))
    (unseen : ∀ a d, g.isRead (put a d) = g.isRead d)
    (commute : ∀ a b d, put' b (put a d) = put a (put' b d)) : f.Clear g := by
  intro v d d₁ read
  rw [reads] at read
  obtain ⟨a, decoded, put_a⟩ := Json.bind_eq_ok.mp read
  cases put_a
  refine ⟨unseen a d, fun w e read' => ?_⟩
  rw [reads'] at read'
  obtain ⟨b, decoded', put_b⟩ := Json.bind_eq_ok.mp read'
  cases put_b
  refine ⟨put' b d, ?_, ?_⟩
  · rw [reads', decoded']
    rfl
  · rw [reads, decoded, commute]
    rfl

/-- **What a visited member does**: it is read by the field of its name, if there is one. -/
theorem visit_eq_ok {fields : List (Field V D)} {d e : D} {member : String × V} :
    visit fields .ignored (fun _ => .ok ()) d member = .ok e ↔
      (∃ f, fields.find? (fun f => f.name = member.1) = some f ∧ f.isRead d = false ∧
        f.read member.2 d = .ok e) ∨
      (fields.find? (fun f => f.name = member.1) = none ∧ d = e) := by
  rw [visit]
  cases fields.find? (fun f => f.name = member.1) with
  | none =>
    refine ⟨fun taken => .inr ⟨rfl, ?_⟩, ?_⟩
    · cases taken
      rfl
    · rintro (⟨f, found, -⟩ | ⟨-, rfl⟩)
      · cases found
      · rfl
  | some f =>
    cases already : f.isRead d with
    | true =>
      refine ⟨fun taken => (by simp [already] at taken), ?_⟩
      rintro (⟨g, found, fresh, -⟩ | ⟨missing, -⟩)
      · cases found
        rw [already] at fresh
        cases fresh
      · cases missing
    | false =>
      simp only [already, Bool.false_eq_true, if_false]
      refine ⟨fun taken => .inl ⟨f, rfl, already, taken⟩, ?_⟩
      rintro (⟨g, found, -, taken⟩ | ⟨missing, -⟩)
      · cases found
        exact taken
      · cases missing

/-- Members of different names are visited in either order. -/
theorem visit_exchanged {fields : List (Field V D)} (apart : Apart fields) {p q : String × V}
    (different : p.1 ≠ q.1) {d e : D}
    (both : (visit fields .ignored (fun _ => .ok ()) d p >>= fun d =>
      visit fields .ignored (fun _ => .ok ()) d q) = .ok e) :
    (visit fields .ignored (fun _ => .ok ()) d q >>= fun d =>
      visit fields .ignored (fun _ => .ok ()) d p) = .ok e := by
  obtain ⟨d₁, first, second⟩ := Json.bind_eq_ok.mp both
  obtain ⟨f, found_f, fresh_f, read_f⟩ | ⟨none_f, rfl⟩ := visit_eq_ok.mp first
  · obtain ⟨g, found_g, fresh_g, read_g⟩ | ⟨none_g, rfl⟩ := visit_eq_ok.mp second
    · have name_f : f.name = p.1 := by simpa using List.find?_some found_f
      have name_g : g.name = q.1 := by simpa using List.find?_some found_g
      have names : f.name ≠ g.name := by rwa [name_f, name_g]
      have mem_f := List.mem_of_find?_eq_some found_f
      have mem_g := List.mem_of_find?_eq_some found_g
      obtain ⟨unseen, swap⟩ := apart f mem_f g mem_g names _ _ _ read_f
      obtain ⟨d₂, read_g', read_f'⟩ := swap _ _ read_g
      have unseen' := (apart g mem_g f mem_f names.symm _ _ _ read_g').1
      exact Json.bind_eq_ok.mpr ⟨d₂, visit_eq_ok.mpr (.inl ⟨g, found_g, unseen ▸ fresh_g, read_g'⟩),
        visit_eq_ok.mpr (.inl ⟨f, found_f, unseen'.trans fresh_f, read_f'⟩)⟩
    · exact Json.bind_eq_ok.mpr ⟨d, visit_eq_ok.mpr (.inr ⟨none_g, rfl⟩), first⟩
  · exact Json.bind_eq_ok.mpr ⟨e, second, visit_eq_ok.mpr (.inr ⟨none_f, rfl⟩)⟩

/-- A sequence that is used up is read alike with an item in place of another that every field
reads alike. -/
theorem ofSequence_replaced {fields : List (Field V D)} {j k : V}
    (same : ∀ f ∈ fields, ∀ d e, f.read j d = .ok e → f.read k d = .ok e)
    (before after : List V) {d e : D}
    (taken : ofSequence fields d (before ++ j :: after) = .ok (e, [])) :
    ofSequence fields d (before ++ k :: after) = .ok (e, []) := by
  induction fields generalizing before d with
  | nil =>
    have left : before ++ j :: after = [] := by
      rw [ofSequence] at taken
      injection taken with taken
      exact (Prod.mk.injEq _ _ _ _ ▸ taken).2
    exact absurd left (by simp)
  | cons f fields ih =>
    have later := ih fun g mem => same g (List.mem_cons_of_mem f mem)
    cases before with
    | nil =>
      rw [List.nil_append, ofSequence] at taken ⊢
      obtain ⟨d₁, read_j, taken⟩ := Json.bind_eq_ok.mp taken
      exact Json.bind_eq_ok.mpr ⟨d₁, same f List.mem_cons_self _ _ read_j, taken⟩
    | cons b before =>
      rw [List.cons_append, ofSequence] at taken ⊢
      obtain ⟨d₁, read_b, taken⟩ := Json.bind_eq_ok.mp taken
      exact Json.bind_eq_ok.mpr ⟨d₁, read_b, later before taken⟩

end Record

namespace Json

variable {D : Type} {fields : List (Record.Field Json D)}

/-- The named members of a record. -/
theorem orderless_members (apart : Record.Apart fields)
    (inner : ∀ f ∈ fields, ∀ d, Orderless fun v => f.read v d) {d e : D}
    {members shuffled : List (String × Json)} (exchanged : Exchanged (obj members) (obj shuffled))
    (taken : Record.ofMembers fields .ignored (fun _ => .ok ()) d members = .ok e) :
    Record.ofMembers fields .ignored (fun _ => .ok ()) d shuffled = .ok e := by
  obtain ⟨d₁, read, complete⟩ := bind_eq_ok.mp taken
  refine bind_eq_ok.mpr ⟨d₁, ?_, complete⟩
  cases exchanged with
  | members before after different =>
    exact foldlM_exchanged before after (fun _ _ => Record.visit_exchanged apart different) read
  | member before after name exchanged =>
    refine foldlM_replaced before after (fun d e visited => ?_) read
    obtain ⟨f, found, fresh, read⟩ | unknown := Record.visit_eq_ok.mp visited
    · exact Record.visit_eq_ok.mpr (.inl ⟨f, found, fresh,
        inner f (List.mem_of_find?_eq_some found) d exchanged read⟩)
    · exact Record.visit_eq_ok.mpr (.inr unknown)

/-- **Records**, in either of their forms. -/
theorem orderless_asRecord (apart : Record.Apart fields)
    (inner : ∀ f ∈ fields, ∀ d, Orderless fun v => f.read v d) (d : D) :
    Orderless (asRecord fields .ignored d) := by
  intro j k exchanged e taken
  cases exchanged with
  | members before after different =>
    exact orderless_members apart inner (.members before after different) taken
  | member before after name exchanged =>
    exact orderless_members apart inner (.member before after name exchanged) taken
  | item before after exchanged =>
    rw [asRecord] at taken ⊢
    obtain ⟨⟨d₁, rest⟩, read, taken⟩ := bind_eq_ok.mp taken
    cases rest with
    | nil =>
      have read' := Record.ofSequence_replaced
        (fun f mem d e => inner f mem d exchanged (x := e)) before after read
      exact bind_eq_ok.mpr ⟨_, read', taken⟩
    | cons v rest => cases taken

/-- The fields of a variant. -/
theorem orderless_recordContent (apart : Record.Apart fields)
    (inner : ∀ f ∈ fields, ∀ d, Orderless fun v => f.read v d) (d : D) :
    Orderless fun j => recordContent fields d (some j) := by
  intro j k exchanged e taken
  cases exchanged with
  | members before after different =>
    exact orderless_members apart inner (.members before after different) taken
  | member before after name exchanged =>
    exact orderless_members apart inner (.member before after name exchanged) taken
  | item before after exchanged => cases taken

/-- **Variants**: an exchange is within the content. -/
theorem asVariant_exchanged {names : List String} {j k : Json} (exchanged : Exchanged j k)
    {name : String} {content : Option Json}
    (taken : asVariant names j = .ok (name, content)) :
    ∃ inner inner', content = some inner ∧ asVariant names k = .ok (name, some inner') ∧
      Exchanged inner inner' := by
  cases exchanged with
  | members before after different =>
    rcases before with _ | ⟨_, _ | ⟨_, _⟩⟩ <;> cases taken
  | @member before after found inner inner' exchanged =>
    -- An object of two members is no variant.
    rcases before with _ | ⟨_, _ | ⟨_, _⟩⟩
    · cases after with
      | nil =>
        simp only [asVariant, asVariant.check, List.nil_append] at taken ⊢
        by_cases known : found ∈ names
        · rw [if_pos known] at taken ⊢
          cases taken
          exact ⟨inner, inner', rfl, rfl, exchanged⟩
        · rw [if_neg known] at taken
          cases taken
      | cons _ _ => cases taken
    · cases taken
    · cases taken
  | item before after exchanged => cases taken

end Json

end ChannelRouting
