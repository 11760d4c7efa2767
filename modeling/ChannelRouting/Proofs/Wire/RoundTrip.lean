import ChannelRouting.Proofs.Wire.Rearranged
import ChannelRouting.Wire.Entry
import ChannelRouting.Wire.Frame
import ChannelRouting.Wire.Message

/-!
# Wire forms survive

For each type that has a wire form two things are shown: a value is read back from its own form
(`ofJson_toJson`), and its reader is orderless (`orderless_ofJson`). Both go from the parts to the
whole: texts, bytes, headers and lists first, then the fields of the records (`apart_fields`,
`orderless_fields`), then the variants.

`wire_forms_survive` puts this together for messages, frames, entries, mutations and strategies
(`Survives`). A value comes back from its form in whatever order the members stand; and what was
taken from any other form that is read (an array, a text in another layout, unknown members, keys
that are unsorted or repeated) comes back from the form in which it is written next. So a mutation
may be sent to where the entry lives, or the entry to the mutation (`Mutation.applySent`).
-/

namespace ChannelRouting

namespace Json

/-! ## Parts -/

theorem asList_map {α : Type} {write : α → Json} {read : Json → Decoded α}
    (own : ∀ x, read (write x) = .ok x) (xs : List α) :
    (arr (xs.map write)).asList read = .ok xs := by
  have mapped : (xs.map write).mapM read = .ok xs := by
    induction xs with
    | nil => rfl
    | cons x xs ih =>
      rw [List.map_cons, List.mapM_cons, own, ih]
      rfl
  exact mapped

theorem asStrings_ofStrings (l : List String) : (ofStrings l).asStrings = .ok l := by
  have own : ∀ s, asString (str s) = .ok s := fun _ => rfl
  exact asList_map own l

theorem asBytes_ofBytes (bytes : List UInt8) : (ofBytes bytes).asBytes = .ok bytes := by
  refine asList_map (fun b => ?_) bytes
  have small : (0 : Int) ≤ b.toNat ∧ (b.toNat : Int) < 256 := by
    have := b.toNat_lt
    omega
  simp [ofNat, asNatBelow, small, pure, Except.pure, bind, Except.bind]

theorem asHeaders_ofHeaders (h : SortedMap String String) : (ofHeaders h).asHeaders = .ok h := by
  have folded : ∀ (l : List (String × String)) (start : SortedMap String String),
      (l.map fun p => (p.1, str p.2)).foldlM
        (fun h p => do return h.insert p.1 (← asString p.2)) start =
      (.ok (l.foldl (fun h p => h.insert p.1 p.2) start) : Decoded _) := by
    intro l
    induction l with
    | nil => exact fun _ => rfl
    | cons p l ih => exact fun start => ih (start.insert p.1 p.2)
  rw [ofHeaders, asHeaders, folded]
  exact congrArg Except.ok h.ofList_toList

end Json

open Json

namespace Uuid

theorem ofJson_toJson (u : Uuid) : ofJson u.toJson = .ok u := by
  simp [ofJson, toJson, asString, ofString?_toString, bind, Except.bind, pure, Except.pure]

theorem orderless_ofJson : Orderless ofJson := orderless_asString.bind _

end Uuid

namespace Message

theorem apart_fields : Record.Apart fields := by
  intro f mem_f g mem_g names
  simp only [fields, List.mem_cons, List.not_mem_nil, or_false] at mem_f mem_g
  rcases mem_f with rfl | rfl | rfl <;> rcases mem_g with rfl | rfl | rfl <;>
    first
    | exact absurd rfl names
    | exact Record.clear_of_places (fun _ _ => rfl) (fun _ _ => rfl) (fun _ _ => rfl)
        (fun _ _ _ => rfl)

theorem orderless_fields : ∀ f ∈ fields, ∀ d, Orderless fun v => f.read v d := by
  intro f mem d
  simp only [fields, List.mem_cons, List.not_mem_nil, or_false] at mem
  rcases mem with rfl | rfl | rfl
  · exact Uuid.orderless_ofJson.bind _
  · exact orderless_asHeaders.bind _
  · exact orderless_asBytes.bind _

theorem orderless_ofJson : Orderless ofJson :=
  (orderless_asRecord apart_fields orderless_fields {}).bind _

theorem ofJson_toJson (m : Message) : ofJson m.toJson = .ok m := by
  simp [ofJson, toJson, asRecord, Record.ofMembers, Record.visit, Record.complete, fields,
    Uuid.ofJson_toJson, asHeaders_ofHeaders, asBytes_ofBytes, bind, Except.bind, pure, Except.pure]

end Message

namespace Command

theorem ofName?_name (c : Command) : ofName? c.name = some c := by
  cases c <;> decide

theorem ofJson_toJson (c : Command) : ofJson c.toJson = .ok c := by
  have known : c.name ∈ all.map name := List.mem_map_of_mem (by cases c <;> decide)
  simp [ofJson, toJson, asVariant, asVariant.check, known, unitContent, ofName, ofName?_name,
    bind, Except.bind]

theorem orderless_ofJson : Orderless ofJson := by
  intro j k exchanged c taken
  obtain ⟨⟨name, content⟩, variant, taken⟩ := bind_eq_ok.mp taken
  obtain ⟨inner, inner', rfl, -, exchanged⟩ := asVariant_exchanged exchanged variant
  obtain ⟨_, unit, -⟩ := bind_eq_ok.mp taken
  -- The content of a command is null, where there is nothing to exchange.
  cases exchanged <;> cases unit

end Command

namespace Frame

theorem apart_fields : Record.Apart fields := by
  intro f mem_f g mem_g names
  simp only [fields, List.mem_cons, List.not_mem_nil, or_false] at mem_f mem_g
  rcases mem_f with rfl | rfl | rfl <;> rcases mem_g with rfl | rfl | rfl <;>
    first
    | exact absurd rfl names
    | exact Record.clear_of_places (fun _ _ => rfl) (fun _ _ => rfl) (fun _ _ => rfl)
        (fun _ _ _ => rfl)

theorem orderless_fields : ∀ f ∈ fields, ∀ d, Orderless fun v => f.read v d := by
  intro f mem d
  simp only [fields, List.mem_cons, List.not_mem_nil, or_false] at mem
  rcases mem with rfl | rfl | rfl
  · exact Command.orderless_ofJson.bind _
  · exact orderless_asHeaders.bind _
  · exact orderless_asBytes.bind _

theorem orderless_ofJson : Orderless ofJson :=
  (orderless_asRecord apart_fields orderless_fields {}).bind _

theorem ofJson_toJson (f : Frame) : ofJson f.toJson = .ok f := by
  simp [ofJson, toJson, asRecord, Record.ofMembers, Record.visit, Record.complete, fields,
    Command.ofJson_toJson, asHeaders_ofHeaders, asBytes_ofBytes, bind, Except.bind, pure,
    Except.pure]

end Frame

namespace Strategy

theorem ofJson_toJson (s : Strategy) : ofJson s.toJson = .ok s := by
  cases s <;> rfl

theorem ofMembers_cons (p : String × Json) (rest : List (String × Json)) :
    ofMembers (p :: rest) =
      if p.1 = "type" then p.2.asString >>= ofTag else ofMembers rest := by
  obtain ⟨name, v⟩ := p
  by_cases tagged : name = "type"
  · subst tagged
    rfl
  · rw [if_neg tagged, ofMembers.eq_3 _ _ (by simpa using tagged)]

theorem ofMembers_exchanged (before after : List (String × Json)) {p q : String × Json}
    (different : p.1 ≠ q.1) :
    ofMembers (before ++ p :: q :: after) = ofMembers (before ++ q :: p :: after) := by
  induction before with
  | nil =>
    simp only [List.nil_append, ofMembers_cons]
    by_cases tagged : p.1 = "type"
    · rw [if_pos tagged, if_neg fun h => different (tagged.trans h.symm), if_pos tagged]
    · rw [if_neg tagged, if_neg tagged]
  | cons b before ih => simp only [List.cons_append, ofMembers_cons, ih]

theorem orderless_tag : Orderless fun v => v.asString >>= ofTag := orderless_asString.bind ofTag

theorem ofMembers_replaced (before after : List (String × Json)) (name : String) {j k : Json}
    (exchanged : Exchanged j k) {s : Strategy}
    (taken : ofMembers (before ++ (name, j) :: after) = .ok s) :
    ofMembers (before ++ (name, k) :: after) = .ok s := by
  induction before with
  | nil =>
    rw [List.nil_append, ofMembers_cons] at taken ⊢
    by_cases tagged : name = "type"
    · rw [if_pos tagged] at taken ⊢
      exact orderless_tag exchanged taken
    · rwa [if_neg tagged] at taken ⊢
  | cons b before ih =>
    rw [List.cons_append, ofMembers_cons] at taken ⊢
    by_cases tagged : b.1 = "type"
    · rwa [if_pos tagged] at taken ⊢
    · rw [if_neg tagged] at taken ⊢
      exact ih taken

theorem orderless_ofJson : Orderless ofJson := by
  intro j k exchanged s taken
  cases exchanged with
  | members before after different =>
    exact (ofMembers_exchanged before after different).symm.trans taken
  | member before after name exchanged =>
    exact ofMembers_replaced before after name exchanged taken
  | @item before after inner inner' exchanged =>
    cases before with
    | nil =>
      have assoc : ∀ v : Json, ofJson (.arr (v :: after)) = (v.asString >>= ofTag >>= fun s =>
          if after.isEmpty then .ok s else .error .invalidLength) :=
        fun _ => (bind_assoc ..).symm
      rw [List.nil_append, assoc] at taken ⊢
      exact orderless_tag.bind _ exchanged taken
    | cons b before =>
      -- What stands behind the tag is refused.
      obtain ⟨tag, -, taken⟩ := bind_eq_ok.mp taken
      obtain ⟨s', -, taken⟩ := bind_eq_ok.mp taken
      rw [if_neg (by simp)] at taken
      cases taken

theorem orderless_ofOption : Orderless (asOption ofJson) := orderless_ofJson.asOption

theorem ofOption_toJson (s : Option Strategy) : asOption ofJson (strategyToJson s) = .ok s := by
  rcases s with _ | _ | _ | _ <;> rfl

end Strategy

namespace ChannelKey

theorem ofJson_toJson (k : ChannelKey) : ofJson k.toJson = .ok k := rfl

theorem orderless_ofJson : Orderless ofJson := orderless_asString.map _

end ChannelKey

namespace Route

theorem apart_fields : Record.Apart fields := by
  intro f mem_f g mem_g names
  simp only [fields, List.mem_cons, List.not_mem_nil, or_false] at mem_f mem_g
  rcases mem_f with rfl | rfl <;> rcases mem_g with rfl | rfl <;>
    first
    | exact absurd rfl names
    | exact Record.clear_of_places (fun _ _ => rfl) (fun _ _ => rfl) (fun _ _ => rfl)
        (fun _ _ _ => rfl)

theorem orderless_fields : ∀ f ∈ fields, ∀ d, Orderless fun v => f.read v d := by
  intro f mem d
  simp only [fields, List.mem_cons, List.not_mem_nil, or_false] at mem
  rcases mem with rfl | rfl
  · exact ChannelKey.orderless_ofJson.bind _
  · exact orderless_asStrings.bind _

theorem orderless_ofJson : Orderless ofJson :=
  (orderless_asRecord apart_fields orderless_fields {}).bind _

theorem ofJson_toJson (r : Route) : ofJson r.toJson = .ok r := by
  simp [ofJson, toJson, asRecord, Record.ofMembers, Record.visit, Record.complete, fields,
    ChannelKey.ofJson_toJson, asStrings_ofStrings, SortedSet.ofList_toList, bind, Except.bind,
    pure, Except.pure]

end Route

namespace Entry

theorem apart_fields : Record.Apart fields := by
  intro f mem_f g mem_g names
  simp only [fields, List.mem_cons, List.not_mem_nil, or_false] at mem_f mem_g
  rcases mem_f with rfl | rfl | rfl <;> rcases mem_g with rfl | rfl | rfl <;>
    first
    | exact absurd rfl names
    | exact Record.clear_of_places (fun _ _ => rfl) (fun _ _ => rfl) (fun _ _ => rfl)
        (fun _ _ _ => rfl)

theorem orderless_fields : ∀ f ∈ fields, ∀ d, Orderless fun v => f.read v d := by
  intro f mem d
  simp only [fields, List.mem_cons, List.not_mem_nil, or_false] at mem
  rcases mem with rfl | rfl | rfl
  · exact ChannelKey.orderless_ofJson.bind _
  · exact Strategy.orderless_ofOption.bind _
  · exact Route.orderless_ofJson.asList.bind _

theorem orderless_ofJson : Orderless ofJson :=
  (orderless_asRecord apart_fields orderless_fields {}).bind _

theorem ofJson_toJson (e : Entry) : ofJson e.toJson = .ok e := by
  have routes := asList_map Route.ofJson_toJson e.routes
  simp [ofJson, toJson, asRecord, Record.ofMembers, Record.visit, Record.complete, fields,
    ChannelKey.ofJson_toJson, Strategy.ofOption_toJson, routes, bind, Except.bind,
    pure, Except.pure]

end Entry

namespace Mutation

theorem apart_fields : Record.Apart fields := by
  intro f mem_f g mem_g names
  simp only [fields, List.mem_cons, List.not_mem_nil, or_false] at mem_f mem_g
  rcases mem_f with rfl | rfl <;> rcases mem_g with rfl | rfl <;>
    first
    | exact absurd rfl names
    | exact Record.clear_of_places (fun _ _ => rfl) (fun _ _ => rfl) (fun _ _ => rfl)
        (fun _ _ _ => rfl)

theorem orderless_fields : ∀ f ∈ fields, ∀ d, Orderless fun v => f.read v d := by
  intro f mem d
  simp only [fields, List.mem_cons, List.not_mem_nil, or_false] at mem
  rcases mem with rfl | rfl
  · exact ChannelKey.orderless_ofJson.bind _
  · exact orderless_asStrings.bind _

/-- The binding that a variant other than the strategy holds. -/
def ofBinding (name : String) (content : Json) : Decoded Mutation := do
  let d ← recordContent fields {} (some content)
  let target := d.target.getD default
  let keys := d.keys.getD []
  return if name = "AddRoute" then addRoute target keys else removeRoute target keys

theorem ofJson_eq_of_variant {j content : Json} {name : String}
    (variant : j.asVariant variants = .ok (name, some content)) :
    ofJson j = if name = "SetStrategy" then setStrategy <$> content.asOption Strategy.ofJson
      else ofBinding name content := by
  rw [ofJson, variant]
  by_cases named : name = "SetStrategy"
  · subst named
    rfl
  · rw [if_neg named]
    simp only [bind, Except.bind]
    split
    · next heq => simp at heq; exact absurd heq.1 named
    · next heq => simp at heq
    · next heq => cases heq; rfl

theorem orderless_ofJson : Orderless ofJson := by
  intro j k exchanged m taken
  obtain ⟨⟨name, content⟩, variant, -⟩ := bind_eq_ok.mp taken
  obtain ⟨inner, inner', rfl, variant', exchanged⟩ := asVariant_exchanged exchanged variant
  rw [ofJson_eq_of_variant variant] at taken
  rw [ofJson_eq_of_variant variant']
  by_cases named : name = "SetStrategy"
  · rw [if_pos named] at taken ⊢
    exact Strategy.orderless_ofOption.map setStrategy exchanged taken
  · rw [if_neg named] at taken ⊢
    exact (orderless_recordContent apart_fields orderless_fields {}).bind _ exchanged taken

theorem ofBinding_bindingToJson (name : String) (target : ChannelKey) (keys : List String) :
    ofBinding name (bindingToJson target keys) =
      .ok (if name = "AddRoute" then addRoute target keys else removeRoute target keys) := by
  simp [ofBinding, bindingToJson, recordContent, Record.ofMembers, Record.visit, Record.complete,
    fields, ChannelKey.ofJson_toJson, asStrings_ofStrings, bind, Except.bind, pure, Except.pure]

theorem ofJson_toJson (m : Mutation) : ofJson m.toJson = .ok m := by
  cases m with
  | addRoute target keys =>
    rw [toJson, ofJson_eq_of_variant rfl, if_neg (by decide), ofBinding_bindingToJson]
    rfl
  | removeRoute target keys =>
    rw [toJson, ofJson_eq_of_variant rfl, if_neg (by decide), ofBinding_bindingToJson]
    rfl
  | setStrategy strategy =>
    rw [toJson, ofJson_eq_of_variant rfl, if_pos rfl, Strategy.ofOption_toJson]
    rfl

end Mutation

/-! ## Forms that survive -/

/-- **A wire form that survives.** -/
structure Survives {α : Type} (write : α → Json) (read : Json → Decoded α) : Prop where
  /-- A value is read back from its form, in whatever order the members stand. -/
  readBack : ∀ x j, (write x).Rearranged j → read j = .ok x
  /-- Of any form that is read at all, the order of members is nothing to the value. -/
  orderless : ∀ j x, read j = .ok x → ∀ k, j.Rearranged k → read k = .ok x
  /-- What was read from any form, written anew, is read again. -/
  again : ∀ j x, read j = .ok x → ∀ k, (write x).Rearranged k → read k = .ok x

theorem survives {α : Type} {write : α → Json} {read : Json → Decoded α}
    (own : ∀ x, read (write x) = .ok x) (orderless : Orderless read) : Survives write read where
  readBack x _ same := orderless.rearranged same (own x)
  orderless _ _ taken _ same := orderless.rearranged same taken
  again _ x _ _ same := orderless.rearranged same (own x)

/-- A mutation and an entry that were sent as wire forms, put together where they arrive. -/
def Mutation.applySent (mutation entry : Json) : Decoded Entry := do
  let m ← Mutation.ofJson mutation
  let e ← Entry.ofJson entry
  return m.apply e

/-- **Wire forms survive**, and mutations have the same effect where they are sent to. -/
theorem wire_forms_survive :
    Survives Message.toJson Message.ofJson ∧ Survives Frame.toJson Frame.ofJson ∧
    Survives Entry.toJson Entry.ofJson ∧ Survives Mutation.toJson Mutation.ofJson ∧
    Survives Strategy.toJson Strategy.ofJson ∧
    ∀ (m : Mutation) (e : Entry) (mutation entry : Json), m.toJson.Rearranged mutation →
      e.toJson.Rearranged entry → Mutation.applySent mutation entry = .ok (m.apply e) := by
  have entries := survives Entry.ofJson_toJson Entry.orderless_ofJson
  have mutations := survives Mutation.ofJson_toJson Mutation.orderless_ofJson
  refine ⟨survives Message.ofJson_toJson Message.orderless_ofJson,
    survives Frame.ofJson_toJson Frame.orderless_ofJson, entries, mutations,
    survives Strategy.ofJson_toJson Strategy.orderless_ofJson, ?_⟩
  intro m e mutation entry sent_mutation sent_entry
  rw [Mutation.applySent, mutations.readBack m mutation sent_mutation,
    entries.readBack e entry sent_entry]
  rfl

/-- The members of a message in ascending order of their names. -/
example (m : Message) : m.toJson.Rearranged (.obj
    [("headers", .ofHeaders m.headers), ("id", m.id.toJson), ("payload", .ofBytes m.payload)]) :=
  rearranged_of_perm (by simp) (.swap _ _ _)

/-- Another form of a route: an unknown member, and keys unsorted and repeated. -/
example :
    Route.ofJson (.obj [("note", .null), ("routing_keys", .ofStrings ["b", "a", "b"]),
      ("target_key", .str "t")]) = .ok { target := ⟨"t"⟩, keys := .ofList ["a", "b"] } := by
  rfl

end ChannelRouting
