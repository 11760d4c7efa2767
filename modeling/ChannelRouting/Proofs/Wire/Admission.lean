import ChannelRouting.Proofs.Entry.Interchange
import ChannelRouting.Proofs.Wire.RoundTrip
import Mathlib.Data.List.Forall2

/-!
# Entries that come in

Mutations keep entries well formed: one route for each target, and a key for each route. Reading an
entry checks shapes alone, so what comes in is as good as the form it was read from. This module
says how good the form has to be.

* `Record.asRecord_held` is what was read of one field of a record: the draft holds what the field
  decodes from the member of its name, or from what stands at its place (`Json.part?`).
* `Route.parts_of_ofJson` and `Entry.routes_of_ofJson` say it of routes and entries.
* `SoundForm` is the condition, said of the tree that is read: its routes name different targets,
  and none lists no keys. `read_entry_wellFormed_iff` says that the entry is well formed exactly
  if its form is sound, and then so is whatever mutations make of it.

What it does not establish: that forms are sound. Those of well-formed entries are, but
`repeated_target_is_read` is one that is not, and is read all the same.
-/

namespace ChannelRouting

namespace Json

/-- A part of a record: the member of a name, or what stands at a place. -/
def part? (name : String) (place : Nat) : Json → Option Json
  | obj members => (members.find? fun p => p.1 = name).map Prod.snd
  | arr items => items[place]?
  | _ => none

theorem asString_eq_ok {j : Json} {s : String} (read : j.asString = .ok s) : j = str s := by
  cases j <;> cases read
  rfl

theorem mapM_eq_ok {α : Type} {read : Json → Decoded α} {items : List Json} {xs : List α}
    (taken : items.mapM read = .ok xs) :
    List.Forall₂ (fun item x => read item = .ok x) items xs := by
  induction items generalizing xs with
  | nil =>
    cases taken
    exact .nil
  | cons item items ih =>
    rw [List.mapM_cons] at taken
    obtain ⟨x, read_x, taken⟩ := bind_eq_ok.mp taken
    obtain ⟨rest, read_rest, taken⟩ := bind_eq_ok.mp taken
    cases taken
    exact .cons read_x (ih read_rest)

/-- A list is read item by item. -/
theorem asList_eq_ok {α : Type} {read : Json → Decoded α} {j : Json} {xs : List α}
    (taken : j.asList read = .ok xs) :
    ∃ items, j = arr items ∧ List.Forall₂ (fun item x => read item = .ok x) items xs := by
  obtain ⟨items, array, taken⟩ := bind_eq_ok.mp taken
  cases j <;> cases array
  exact ⟨items, rfl, mapM_eq_ok taken⟩

theorem asStrings_eq_ok {j : Json} {l : List String} (taken : j.asStrings = .ok l) :
    j = ofStrings l := by
  obtain ⟨items, rfl, strings⟩ := asList_eq_ok taken
  clear taken
  rw [ofStrings, arr.injEq]
  induction strings with
  | nil => rfl
  | cons first _ ih => rw [asString_eq_ok first, ih, List.map_cons]

end Json

/-! ## Fields of a record -/

namespace Record

variable {V D α : Type}

/-- **A field that has a slot of the draft to itself**: it puts there what it decodes, and counts as
read once something is there. -/
structure Field.Fills (f : Field V D) (fields : List (Field V D)) (decode : V → Decoded α)
    (slot : D → Option α) : Prop where
  known : fields.find? (fun g => g.name = f.name) = some f
  isRead : ∀ d, f.isRead d = (slot d).isSome
  own : ∀ v d e, f.read v d = .ok e → ∃ a, decode v = .ok a ∧ slot e = some a
  others : ∀ g ∈ fields, g.name ≠ f.name → ∀ v d e, g.read v d = .ok e → slot e = slot d

variable {fields : List (Field V D)} {f : Field V D} {decode : V → Decoded α} {slot : D → Option α}
  {d e : D}

theorem own_of_put {put : α → D → D}
    (reads : ∀ v d, f.read v d = decode v >>= fun a => .ok (put a d))
    (fills : ∀ a d, slot (put a d) = some a) (v : V) (d e : D) (read : f.read v d = .ok e) :
    ∃ a, decode v = .ok a ∧ slot e = some a := by
  rw [reads] at read
  obtain ⟨a, decoded, put_a⟩ := Json.bind_eq_ok.mp read
  cases put_a
  exact ⟨a, decoded, fills a d⟩

theorem other_of_put {β : Type} {g : Field V D} {decode' : V → Decoded β} {put' : β → D → D}
    (reads : ∀ v d, g.read v d = decode' v >>= fun b => .ok (put' b d))
    (leaves : ∀ b d, slot (put' b d) = slot d) (v : V) (d e : D) (read : g.read v d = .ok e) :
    slot e = slot d := by
  rw [reads] at read
  obtain ⟨b, -, put_b⟩ := Json.bind_eq_ok.mp read
  cases put_b
  exact leaves b d

/-- A member of the field's name finds the slot empty, and fills it. -/
theorem visit_own (fills : f.Fills fields decode slot) {p : String × V} (own : p.1 = f.name)
    (visited : visit fields .ignored (fun _ => .ok ()) d p = .ok e) :
    slot d = none ∧ ∃ a, decode p.2 = .ok a ∧ slot e = some a := by
  have known := fills.known
  rw [← own] at known
  obtain ⟨g, found, fresh, read⟩ | ⟨missing, -⟩ := visit_eq_ok.mp visited
  · cases known.symm.trans found
    rw [fills.isRead, Option.isSome_eq_false_iff, Option.isNone_iff_eq_none] at fresh
    exact ⟨fresh, fills.own _ _ _ read⟩
  · cases known.symm.trans missing

theorem visit_other (fills : f.Fills fields decode slot) {p : String × V} (other : p.1 ≠ f.name)
    (visited : visit fields .ignored (fun _ => .ok ()) d p = .ok e) : slot e = slot d := by
  obtain ⟨g, found, -, read⟩ | ⟨-, rfl⟩ := visit_eq_ok.mp visited
  · have name : g.name = p.1 := by simpa using List.find?_some found
    rw [← name] at other
    exact fills.others g (List.mem_of_find?_eq_some found) other _ _ _ read
  · rfl

/-- What is in the slot stays there, for a second member of the name is refused. -/
theorem visited_kept (fills : f.Fills fields decode slot) {members : List (String × V)}
    (visited : members.foldlM (visit fields .ignored fun _ => .ok ()) d = .ok e) {a : α}
    (held : slot d = some a) : slot e = some a := by
  induction members generalizing d with
  | nil =>
    cases visited
    exact held
  | cons p members ih =>
    rw [List.foldlM_cons] at visited
    obtain ⟨d₁, first, visited⟩ := Json.bind_eq_ok.mp visited
    refine ih visited ?_
    by_cases own : p.1 = f.name
    · have empty := (visit_own fills own first).1
      rw [held] at empty
      cases empty
    · rw [visit_other fills own first, held]

/-- What comes into an empty slot is decoded from the first member of the field's name. -/
theorem visited_held (fills : f.Fills fields decode slot) {members : List (String × V)}
    (visited : members.foldlM (visit fields .ignored fun _ => .ok ()) d = .ok e)
    (empty : slot d = none) {a : α} (held : slot e = some a) :
    ∃ p, members.find? (fun p => p.1 = f.name) = some p ∧ decode p.2 = .ok a := by
  induction members generalizing d with
  | nil =>
    cases visited
    rw [empty] at held
    cases held
  | cons p members ih =>
    rw [List.foldlM_cons] at visited
    obtain ⟨d₁, first, visited⟩ := Json.bind_eq_ok.mp visited
    by_cases own : p.1 = f.name
    -- the first member of the name fills the slot, and what is there at the end is what it put there
    · obtain ⟨-, b, decoded, filled⟩ := visit_own fills own first
      cases (visited_kept fills visited filled).symm.trans held
      exact ⟨p, List.find?_cons_of_pos (decide_eq_true own), decoded⟩
    · rw [List.find?_cons_of_neg (by simpa using own)]
      exact ih visited ((visit_other fills own first).trans empty)

/-- A field that must be there is read once nothing is missing. -/
theorem isRead_of_complete (fills : f.Fills fields decode slot) (refused : f.absence = .refused)
    (complete : complete fields d = .ok e) : d = e ∧ ∃ a, slot d = some a := by
  unfold Record.complete at complete
  cases missing : fields.find? (fun f => f.absence = .refused && !f.isRead d) with
  | some g =>
    rw [missing] at complete
    cases complete
  | none =>
    rw [missing] at complete
    cases complete
    have read := List.find?_eq_none.mp missing f (List.mem_of_find?_eq_some fills.known)
    simp only [refused, fills.isRead] at read
    refine ⟨rfl, Option.ne_none_iff_exists'.mp ?_⟩
    simpa using read

/-- A sequence leaves a slot alone that belongs to none of its fields. -/
theorem sequence_kept (fills : f.Fills fields decode slot) {later : List (Field V D)}
    (subset : later ⊆ fields) (others : ∀ g ∈ later, g.name ≠ f.name) {items rest : List V}
    (read : ofSequence later d items = .ok (e, rest)) : slot e = slot d := by
  induction later generalizing d items with
  | nil =>
    cases read
    rfl
  | cons g later ih =>
    have ih' {d items} := @ih d (List.subset_of_cons_subset subset)
      (fun h mem => others h (List.mem_cons_of_mem g mem)) items
    cases items with
    | nil =>
      rw [ofSequence] at read
      split at read
      · exact ih' read
      · cases read
    | cons v items =>
      obtain ⟨d₁, first, read⟩ := Json.bind_eq_ok.mp read
      rw [ih' read]
      exact fills.others g (subset List.mem_cons_self) (others g List.mem_cons_self) _ _ _ first

/-- What a sequence puts into a slot is decoded from the item at the field's place. -/
theorem sequence_held (fills : f.Fills fields decode slot) (refused : f.absence = .refused)
    {later : List (Field V D)} (subset : later ⊆ fields) (distinct : (later.map Field.name).Nodup)
    {place : Nat} (at_place : later[place]? = some f) {items rest : List V}
    (read : ofSequence later d items = .ok (e, rest)) :
    ∃ v a, items[place]? = some v ∧ decode v = .ok a ∧ slot e = some a := by
  induction later generalizing d items place with
  | nil => cases at_place
  | cons g later ih =>
    obtain ⟨fresh, distinct'⟩ := List.nodup_cons.mp distinct
    have subset' := List.subset_of_cons_subset subset
    cases items with
    | nil =>
      rw [ofSequence] at read
      split at read
      · next defaulted =>
        cases place with
        | zero =>
          cases at_place
          rw [refused] at defaulted
          cases defaulted
        | succ place =>
          obtain ⟨v, -, none, -⟩ := ih subset' distinct' at_place read
          cases none
      · cases read
    | cons v items =>
      obtain ⟨d₁, first, after⟩ := Json.bind_eq_ok.mp read
      cases place with
      | zero =>
        cases at_place
        obtain ⟨a, decoded, filled⟩ := fills.own _ _ _ first
        have others : ∀ h ∈ later, h.name ≠ f.name := by
          intro h mem same
          exact fresh (same ▸ List.mem_map_of_mem mem)
        exact ⟨v, a, rfl, decoded, (sequence_kept fills subset' others after).trans filled⟩
      | succ place => exact ih subset' distinct' at_place after

end Record

/-- **What was read of a field** that must be there: the draft holds what the field decodes from
the part of the record that is its own. -/
theorem Json.asRecord_held {D α : Type} {fields : List (Record.Field Json D)}
    {f : Record.Field Json D} {decode : Json → Decoded α} {slot : D → Option α}
    (fills : f.Fills fields decode slot) (refused : f.absence = .refused)
    (distinct : (fields.map Record.Field.name).Nodup) (place : Nat)
    (at_place : fields[place]? = some f) {d e : D} (empty : slot d = none) {j : Json}
    (read : j.asRecord fields .ignored d = .ok e) :
    ∃ v a, j.part? f.name place = some v ∧ decode v = .ok a ∧ slot e = some a := by
  cases j with
  | obj members =>
    obtain ⟨d₁, visited, complete⟩ := bind_eq_ok.mp read
    obtain ⟨rfl, a, held⟩ := Record.isRead_of_complete fills refused complete
    obtain ⟨p, found, decoded⟩ := Record.visited_held fills visited empty held
    refine ⟨p.2, a, ?_, decoded, held⟩
    rw [part?, found, Option.map_some]
  | arr items =>
    obtain ⟨⟨d₁, rest⟩, sequence, taken⟩ := bind_eq_ok.mp read
    have same : d₁ = e := by
      cases rest <;> cases taken
      rfl
    rw [← same]
    exact Record.sequence_held fills refused (List.Subset.refl _) distinct at_place sequence
  | null | bool b | int n | decimal l | str s => cases read

/-! ## Routes and entries -/

open Json

namespace Route

theorem fills_target {f : Record.Field Json Draft} (at_place : fields[0]? = some f) :
    f.Fills fields ChannelKey.ofJson Draft.target := by
  cases at_place
  refine ⟨rfl, fun _ => rfl, Record.own_of_put (fun _ _ => rfl) (fun _ _ => rfl), ?_⟩
  intro g mem other
  simp only [fields, List.mem_cons, List.not_mem_nil, or_false] at mem
  rcases mem with rfl | rfl
  · exact absurd rfl other
  · exact Record.other_of_put (fun _ _ => rfl) (fun _ _ => rfl)

theorem fills_keys {f : Record.Field Json Draft} (at_place : fields[1]? = some f) :
    f.Fills fields (fun v => v.asStrings >>= fun keys => .ok (.ofList keys)) Draft.keys := by
  cases at_place
  have reads (v : Json) (d : Draft) :
      (v.asStrings >>= fun keys => .ok { d with keys := some (.ofList keys) }) =
        (v.asStrings >>= fun keys => .ok (.ofList keys)) >>= fun keys =>
          (.ok { d with keys := some keys } : Decoded Draft) := by
    cases v.asStrings <;> rfl
  refine ⟨rfl, fun _ => rfl, Record.own_of_put reads (fun _ _ => rfl), ?_⟩
  intro g mem other
  simp only [fields, List.mem_cons, List.not_mem_nil, or_false] at mem
  rcases mem with rfl | rfl
  · exact Record.other_of_put (fun _ _ => rfl) (fun _ _ => rfl)
  · exact absurd rfl other

theorem distinct_fields : (fields.map Record.Field.name).Nodup := by decide

/-- **What was read of a route**: the target that it names, and the keys that it lists. -/
theorem parts_of_ofJson {j : Json} {r : Route} (read : ofJson j = .ok r) :
    j.part? "target_key" 0 = some (.str r.target.name) ∧
      ∃ keys, j.part? "routing_keys" 1 = some (.ofStrings keys) ∧ r.keys = .ofList keys := by
  obtain ⟨d, record, taken⟩ := bind_eq_ok.mp read
  cases taken
  obtain ⟨v, target, part, decoded, held⟩ :=
    asRecord_held (fills_target rfl) rfl distinct_fields 0 rfl rfl record
  have named : v = .str target.name := by
    cases v <;> cases decoded
    rfl
  obtain ⟨w, keySet, part', decoded', held'⟩ :=
    asRecord_held (fills_keys rfl) rfl distinct_fields 1 rfl rfl record
  obtain ⟨keys, strings, made⟩ := bind_eq_ok.mp decoded'
  cases made
  refine ⟨?_, keys, ?_, ?_⟩
  · rw [held, part, named]
    rfl
  · rw [← asStrings_eq_ok strings]
    exact part'
  · rw [held']
    rfl

end Route

namespace Entry

theorem distinct_fields : (fields.map Record.Field.name).Nodup := by decide

theorem fills_routes {f : Record.Field Json Draft} (at_place : fields[2]? = some f) :
    f.Fills fields (fun v => v.asList Route.ofJson) Draft.routes := by
  cases at_place
  refine ⟨rfl, fun _ => rfl, Record.own_of_put (fun _ _ => rfl) (fun _ _ => rfl), ?_⟩
  intro g mem other
  simp only [fields, List.mem_cons, List.not_mem_nil, or_false] at mem
  rcases mem with rfl | rfl | rfl
  · exact Record.other_of_put (fun _ _ => rfl) (fun _ _ => rfl)
  · exact Record.other_of_put (fun _ _ => rfl) (fun _ _ => rfl)
  · exact absurd rfl other

/-- **What was read of an entry's routes**: each of those that it lists. -/
theorem routes_of_ofJson {j : Json} {e : Entry} (read : ofJson j = .ok e) :
    ∃ items, j.part? "routes" 2 = some (.arr items) ∧
      List.Forall₂ (fun item r => Route.ofJson item = .ok r) items e.routes := by
  obtain ⟨d, record, taken⟩ := bind_eq_ok.mp read
  cases taken
  obtain ⟨v, routes, part, decoded, held⟩ :=
    asRecord_held (fills_routes rfl) rfl distinct_fields 2 rfl rfl record
  obtain ⟨items, rfl, each⟩ := asList_eq_ok decoded
  refine ⟨items, part, ?_⟩
  rw [held]
  exact each

/-! ## How good a form has to be -/

/-- The forms of the routes that the form of an entry lists. -/
def routeForms (j : Json) : List Json :=
  match j.part? "routes" 2 with
  | some (.arr forms) => forms
  | _ => []

/-- **A form whose routes name different targets**, and list a key each. -/
structure SoundForm (j : Json) : Prop where
  distinct : ((routeForms j).map (part? "target_key" 0)).Nodup
  keyed : ∀ form ∈ routeForms j, form.part? "routing_keys" 1 ≠ some (.arr [])

theorem routeForms_of_ofJson {j : Json} {e : Entry} (read : ofJson j = .ok e) :
    List.Forall₂ (fun form r => Route.ofJson form = .ok r) (routeForms j) e.routes := by
  obtain ⟨forms, part, each⟩ := routes_of_ofJson read
  rw [routeForms, part]
  exact each

/-- Routes have the targets that their forms name. -/
theorem distinct_iff {forms : List Json} {routes : List Route}
    (each : List.Forall₂ (fun form r => Route.ofJson form = .ok r) forms routes) :
    (forms.map (part? "target_key" 0)).Nodup ↔ (routes.map Route.target).Nodup := by
  have named : forms.map (part? "target_key" 0) =
      (routes.map Route.target).map fun target => some (.str target.name) := by
    induction each with
    | nil => rfl
    | cons first _ ih => rw [List.map_cons, (Route.parts_of_ofJson first).1, ih]; rfl
  have injective : Function.Injective fun target : ChannelKey => some (Json.str target.name) := by
    intro a b same
    cases a
    cases b
    cases same
    rfl
  rw [named, List.nodup_map_iff injective]

/-- A route has no keys exactly if its form lists none. -/
theorem keyed_iff {form : Json} {r : Route} (read : Route.ofJson form = .ok r) :
    form.part? "routing_keys" 1 ≠ some (.arr []) ↔ r.keys.isEmpty = false := by
  obtain ⟨-, keys, part, listed⟩ := Route.parts_of_ofJson read
  rw [part, listed]
  cases keys with
  | nil => simp [ofStrings, SortedSet.ofList, SortedSet.insertAll, SortedSet.isEmpty]
  | cons key keys =>
    have filled := SortedSet.isEmpty_insertAll (s := .empty) (List.cons_ne_nil key keys)
    simp [ofStrings, SortedSet.ofList, filled]

theorem all_keyed_iff {forms : List Json} {routes : List Route}
    (each : List.Forall₂ (fun form r => Route.ofJson form = .ok r) forms routes) :
    (∀ form ∈ forms, form.part? "routing_keys" 1 ≠ some (.arr [])) ↔
      ∀ r ∈ routes, r.keys.isEmpty = false := by
  induction each with
  | nil => simp
  | cons first _ ih => rw [List.forall_mem_cons, List.forall_mem_cons, keyed_iff first, ih]

end Entry

/-- **An entry is as well formed as the form it was read from**, and stays so: from a form whose
routes name different targets, with a key each, no mutations lead to an entry that has two routes
to one target or a route without keys. From any other form, what is read is not well formed. -/
theorem read_entry_wellFormed_iff {j : Json} {e : Entry} (read : Entry.ofJson j = .ok e) :
    (e.WellFormed ↔ Entry.SoundForm j) ∧
      (Entry.SoundForm j → ∀ ms, (Mutation.applyAll e ms).WellFormed) := by
  have each := Entry.routeForms_of_ofJson read
  have sound : e.WellFormed ↔ Entry.SoundForm j := by
    constructor
    · intro wellFormed
      exact ⟨(Entry.distinct_iff each).mpr wellFormed.nodup,
        (Entry.all_keyed_iff each).mpr wellFormed.keyed⟩
    · intro form
      exact ⟨(Entry.distinct_iff each).mp form.distinct,
        (Entry.all_keyed_iff each).mp form.keyed⟩
  refine ⟨sound, ?_⟩
  intro form ms
  exact Entry.wellFormed_applyAll (sound.mpr form) ms

/-- An entry in which one route is written by name, and all else by place. -/
theorem read_entry_wellFormed_of_places :
    let j : Json := .arr [.str "s", .null, .arr [
      .obj [("routing_keys", .ofStrings ["y", "x", "y"]), ("target_key", .str "t")],
      .arr [.str "u", .ofStrings ["x"]]]]
    let e : Entry :=
      { channel := ⟨"s"⟩, strategy := none,
        routes := [{ target := ⟨"t"⟩, keys := .ofList ["x", "y"] },
          { target := ⟨"u"⟩, keys := .ofList ["x"] }] }
    Entry.ofJson j = .ok e ∧ e.WellFormed ∧ ∀ ms, (Mutation.applyAll e ms).WellFormed := by
  intro j e
  have read : Entry.ofJson j = .ok e := rfl
  have sound : Entry.SoundForm j := by
    refine ⟨?_, ?_⟩
    · simp [j, Entry.routeForms, part?]
    · simp [j, Entry.routeForms, part?, ofStrings]
  obtain ⟨now, later⟩ := read_entry_wellFormed_iff read
  exact ⟨read, now.mpr sound, later sound⟩

/-- **An entry with two routes to one target and a route without keys is read.** A route that is
added elsewhere leaves it so, and taking one key from the first of the two routes to `t` takes the
second as well, with the key `y` that was to stay. -/
theorem repeated_target_is_read :
    let route (target : String) (keys : List String) : Json :=
      .obj [("target_key", .str target), ("routing_keys", .ofStrings keys)]
    let made (target : String) (keys : List String) : Route :=
      { target := ⟨target⟩, keys := .ofList keys }
    let e : Entry :=
      { channel := ⟨"s"⟩, strategy := some .fanout,
        routes := [made "t" ["x"], made "t" ["y"], made "u" []] }
    Entry.ofJson (.obj [("channel_key", .str "s"), ("strategy", Strategy.fanout.toJson),
        ("routes", .arr [route "t" ["x"], route "t" ["y"], route "u" []])]) = .ok e ∧
      ¬ (e.routes.map Route.target).Nodup ∧ (∃ r ∈ e.routes, r.keys.isEmpty = true) ∧
      ¬ ((Mutation.addRoute ⟨"v"⟩ []).apply e).WellFormed ∧
      ((Mutation.removeRoute ⟨"t"⟩ ["x"]).apply e).routes = [made "u" []] := by
  intro route made e
  refine ⟨rfl, ?_, ?_, ?_, ?_⟩ <;> decide

end ChannelRouting
