import ChannelRouting.Config.Load
import Mathlib.Data.List.Nodup

/-!
# What is wrong with a configuration

`Config.WellFormed` says which configurations are to be accepted, and `Config.First` which offence
is the first of a configuration, by the place where it stands: all that stands before it is in
order. Neither mentions the set of names that the check gathers as it goes along the sources.

The check keeps in that set the names of the sources it has passed (`Gathered`). From this it
follows that it accepts exactly the well-formed configurations and reports exactly the first
offence (`validate_eq_ok_iff`, `validate_eq_error_iff`). As the check gives one answer, every
configuration that is not well-formed has a first offence, and no configuration has two.

What makes a text JSON5, and a value a configuration, is left to `Reads`.
-/

namespace ChannelRouting.Config

/-! ## What is asked of a configuration -/

/-- **A well-formed configuration.** -/
structure WellFormed (c : Config) : Prop where
  named : ∀ r ∈ c.routers, r.source ≠ ""
  distinct : c.sources.Nodup
  aimed : ∀ r ∈ c.routers, ∀ route ∈ r.routes, route.target ≠ ""
  known : ∀ s ∈ c.seeds, s.source ∈ c.sources
  attempts : ∀ n, c.store = .optimistic n → 1 ≤ n

/-- Sources with which nothing is wrong. -/
structure InOrder (routers : List RouterSetting) : Prop where
  named : ∀ r ∈ routers, r.source ≠ ""
  distinct : (routers.map RouterSetting.source).Nodup
  aimed : ∀ r ∈ routers, ∀ route ∈ r.routes, route.target ≠ ""

/-- What is wrong first with a source that stands behind others. -/
inductive Amiss (before : List RouterSetting) (r : RouterSetting) : Offence → Prop
  | emptySource : r.source = "" → Amiss before r .emptySource
  | repeatedSource : r.source ≠ "" → r.source ∈ before.map RouterSetting.source →
      Amiss before r (.repeatedSource r.source)
  | emptyTarget {earlier later : List RouteSetting} {route : RouteSetting} :
      r.source ≠ "" → r.source ∉ before.map RouterSetting.source →
      r.routes = earlier ++ route :: later → (∀ x ∈ earlier, x.target ≠ "") → route.target = "" →
      Amiss before r (.emptyTarget r.source route)

/-- **The first offence of a configuration**: of the first source with which something is wrong;
else the first message for a source that is not configured; else a store without attempts. -/
inductive First (c : Config) : Offence → Prop
  | ofSource {before after : List RouterSetting} {r : RouterSetting} {o : Offence} :
      c.routers = before ++ r :: after → InOrder before → Amiss before r o → First c o
  | ofSeed {earlier later : List SeedMessage} {s : SeedMessage} :
      InOrder c.routers → c.seeds = earlier ++ s :: later →
      (∀ x ∈ earlier, x.source ∈ c.sources) → s.source ∉ c.sources →
      First c (.unknownSource s.source)
  | ofStore : InOrder c.routers → (∀ s ∈ c.seeds, s.source ∈ c.sources) →
      c.store = .optimistic 0 → First c .noAttempts

/-- The configuration that a text says, whether or not something is wrong with it. -/
def Reads (text : String) (c : Config) : Prop :=
  ∃ v, Json5.Value.parse? text = some v ∧ ofValue v = .ok c

/-! ## Sources -/

theorem inOrder_nil : InOrder [] where
  named _ h := absurd h List.not_mem_nil
  distinct := List.nodup_nil
  aimed _ h := absurd h List.not_mem_nil

theorem InOrder.left {before after : List RouterSetting} (h : InOrder (before ++ after)) :
    InOrder before where
  named r hr := h.named r (List.mem_append_left after hr)
  distinct := by
    have distinct := h.distinct
    rw [List.map_append] at distinct
    exact (List.nodup_append.mp distinct).1
  aimed r hr := h.aimed r (List.mem_append_left after hr)

/-- One more source is in order if it has a name of its own and its routes have targets. -/
theorem inOrder_concat {before : List RouterSetting} {r : RouterSetting} (h : InOrder before) :
    InOrder (before ++ [r]) ↔
      r.source ≠ "" ∧ r.source ∉ before.map RouterSetting.source ∧
        ∀ route ∈ r.routes, route.target ≠ "" := by
  constructor
  · intro more
    have present : r ∈ before ++ [r] := List.mem_append_right before List.mem_cons_self
    refine ⟨more.named r present, fun again => ?_, more.aimed r present⟩
    have distinct := more.distinct
    rw [List.map_append] at distinct
    exact (List.nodup_append.mp distinct).2.2 _ again _ List.mem_cons_self rfl
  · rintro ⟨named, fresh, aimed⟩
    refine ⟨?_, ?_, ?_⟩
    · intro x hx
      rcases List.mem_append.mp hx with hx | hx
      · exact h.named x hx
      · rwa [List.mem_singleton.mp hx]
    · rw [List.map_append, List.map_singleton]
      have apart := List.disjoint_singleton.mpr fresh
      exact List.Nodup.append h.distinct (List.nodup_singleton _) apart
    · intro x hx
      rcases List.mem_append.mp hx with hx | hx
      · exact h.aimed x hx
      · rwa [List.mem_singleton.mp hx]

/-- A set holds the names of the sources that were passed. -/
def Gathered (seen : SortedSet String) (before : List RouterSetting) : Prop :=
  ∀ name, name ∈ seen ↔ name ∈ before.map RouterSetting.source

section Sources

variable {seen : SortedSet String} {before routers : List RouterSetting} {r : RouterSetting}
  {o : Offence}

theorem gathered_nil : Gathered .empty [] := by
  intro name
  constructor
  · exact fun h => absurd h (List.not_mem_nil (a := name))
  · exact fun h => absurd h List.not_mem_nil

/-- The name of a source is gathered as it is passed. -/
theorem Gathered.concat (h : Gathered seen before) (r : RouterSetting) :
    Gathered (seen.insert r.source) (before ++ [r]) := by
  intro name
  rw [SortedSet.mem_insert, h name, List.map_append, List.mem_append, List.map_singleton,
    List.mem_singleton]
  exact or_comm

/-- **What is found wrong with one source.** -/
theorem routerOffence?_eq_some_iff (gathered : Gathered seen before) :
    routerOffence? seen r = some o ↔ Amiss before r o := by
  unfold routerOffence?
  by_cases nameless : r.source = ""
  · rw [if_pos (String.isEmpty_iff.mpr nameless)]
    constructor
    · rintro ⟨⟩
      exact .emptySource nameless
    · rintro (_ | named | named)
      · rfl
      · exact absurd nameless named
      · exact absurd nameless named
  · rw [if_neg (mt String.isEmpty_iff.mp nameless)]
    by_cases again : r.source ∈ seen
    · rw [if_pos again]
      constructor
      · rintro ⟨⟩
        exact .repeatedSource nameless ((gathered _).mp again)
      · rintro (empty | _ | ⟨_, fresh⟩)
        · exact absurd empty nameless
        · rfl
        · exact absurd ((gathered _).mp again) fresh
    · rw [if_neg again, Option.map_eq_some_iff]
      constructor
      · rintro ⟨route, found, rfl⟩
        obtain ⟨empty, earlier, later, split, others⟩ := List.find?_eq_some_iff_append.mp found
        refine .emptyTarget nameless (mt (gathered _).mpr again) split (fun x hx => ?_)
          (String.isEmpty_iff.mp empty)
        simpa only [Bool.not_eq_true', ← Bool.not_eq_true, String.isEmpty_iff] using others x hx
      · rintro (empty | ⟨_, repeated⟩ | ⟨_, _, split, others, empty⟩)
        · exact absurd empty nameless
        · exact absurd ((gathered _).mpr repeated) again
        · refine ⟨_, List.find?_eq_some_iff_append.mpr
            ⟨String.isEmpty_iff.mpr empty, _, _, split, fun x hx => ?_⟩, rfl⟩
          simpa only [Bool.not_eq_true', ← Bool.not_eq_true, String.isEmpty_iff] using others x hx

/-- Nothing is found wrong with one source if it may stand behind those before it. -/
theorem routerOffence?_eq_none_iff (gathered : Gathered seen before) (h : InOrder before) :
    routerOffence? seen r = none ↔ InOrder (before ++ [r]) := by
  rw [inOrder_concat h, ← gathered r.source, routerOffence?]
  by_cases nameless : r.source = ""
  · rw [if_pos (String.isEmpty_iff.mpr nameless)]
    constructor
    · rintro ⟨⟩
    · rintro ⟨named, -⟩
      exact absurd nameless named
  · rw [if_neg (mt String.isEmpty_iff.mp nameless)]
    by_cases again : r.source ∈ seen
    · rw [if_pos again]
      constructor
      · rintro ⟨⟩
      · rintro ⟨-, fresh, -⟩
        exact absurd again fresh
    · rw [if_neg again, Option.map_eq_none_iff, List.find?_eq_none]
      simp only [String.isEmpty_iff, ne_eq, nameless, again, not_false_eq_true, true_and]

/-- **Nothing is found wrong with sources exactly if they are in order.** -/
theorem routersOffence?_eq_none_iff (gathered : Gathered seen before) (h : InOrder before) :
    routersOffence? seen routers = none ↔ InOrder (before ++ routers) := by
  induction routers generalizing seen before with
  | nil =>
    rw [List.append_nil]
    exact ⟨fun _ => h, fun _ => rfl⟩
  | cons r rest ih =>
    have step := routerOffence?_eq_none_iff (r := r) gathered h
    rw [routersOffence?, Option.or_eq_none_iff, step, List.append_cons before r rest]
    constructor
    · rintro ⟨own, others⟩
      exact (ih (gathered.concat r) own).mp others
    · intro all
      exact ⟨all.left, (ih (gathered.concat r) all.left).mpr all⟩

/-- **What is found wrong with sources is wrong with the first one that is not in order.** -/
theorem routersOffence?_eq_some_iff (gathered : Gathered seen before) (h : InOrder before) :
    routersOffence? seen routers = some o ↔
      ∃ passed r after, routers = passed ++ r :: after ∧ InOrder (before ++ passed) ∧
        Amiss (before ++ passed) r o := by
  induction routers generalizing seen before with
  | nil =>
    constructor
    · rintro ⟨⟩
    · rintro ⟨passed, r, after, split, -⟩
      exact absurd split.symm (List.append_ne_nil_of_right_ne_nil _ (List.cons_ne_nil _ _))
  | cons x rest ih =>
    have own := routerOffence?_eq_some_iff (r := x) (o := o) gathered
    have step := routerOffence?_eq_none_iff (r := x) gathered h
    rw [routersOffence?, Option.or_eq_some_iff, own, step]
    constructor
    · rintro (amiss | ⟨more, found⟩)
      · exact ⟨[], x, rest, rfl, by rwa [List.append_nil], by rwa [List.append_nil]⟩
      · obtain ⟨passed, r, after, rfl, order, amiss⟩ := (ih (gathered.concat x) more).mp found
        rw [← List.append_cons] at order amiss
        exact ⟨x :: passed, r, after, rfl, order, amiss⟩
    · rintro ⟨passed, r, after, split, order, amiss⟩
      cases passed with
      | nil =>
        obtain ⟨rfl, rfl⟩ := List.cons.inj split
        rw [List.append_nil] at amiss
        exact .inl amiss
      | cons y passed =>
        obtain ⟨rfl, rfl⟩ := List.cons.inj split
        rw [List.append_cons] at order amiss
        refine .inr ⟨order.left, (ih (gathered.concat x) order.left).mpr ?_⟩
        exact ⟨passed, r, after, rfl, order, amiss⟩

end Sources

/-! ## Messages and the store -/

variable {c : Config} {o : Offence}

theorem seedOffence?_eq_none_iff : c.seedOffence? = none ↔ ∀ s ∈ c.seeds, s.source ∈ c.sources := by
  rw [seedOffence?, Option.map_eq_none_iff, List.find?_eq_none]
  simp only [decide_eq_true_eq, not_not]

theorem seedOffence?_eq_some_iff :
    c.seedOffence? = some o ↔
      ∃ earlier s later, c.seeds = earlier ++ s :: later ∧
        (∀ x ∈ earlier, x.source ∈ c.sources) ∧ s.source ∉ c.sources ∧
        .unknownSource s.source = o := by
  rw [seedOffence?, Option.map_eq_some_iff]
  constructor
  · rintro ⟨s, found, rfl⟩
    obtain ⟨unknown, earlier, later, split, others⟩ := List.find?_eq_some_iff_append.mp found
    refine ⟨earlier, s, later, split, fun x hx => ?_, of_decide_eq_true unknown, rfl⟩
    simpa only [Bool.not_eq_true', decide_eq_false_iff_not, not_not] using others x hx
  · rintro ⟨earlier, s, later, split, others, unknown, rfl⟩
    refine ⟨s, List.find?_eq_some_iff_append.mpr
      ⟨decide_eq_true unknown, earlier, later, split, fun x hx => ?_⟩, rfl⟩
    simpa only [Bool.not_eq_true', decide_eq_false_iff_not, not_not] using others x hx

theorem storeOffence?_eq_none_iff :
    c.storeOffence? = none ↔ ∀ n, c.store = .optimistic n → 1 ≤ n := by
  unfold storeOffence?
  split
  · next none_allowed =>
    constructor
    · rintro ⟨⟩
    · intro some_allowed
      exact absurd (some_allowed 0 none_allowed) (by decide)
  · next other =>
    refine ⟨fun _ n hn => Nat.one_le_iff_ne_zero.mpr fun zero => ?_, fun _ => rfl⟩
    exact other (hn.trans (congrArg _ zero))

theorem storeOffence?_eq_some_iff :
    c.storeOffence? = some o ↔ c.store = .optimistic 0 ∧ .noAttempts = o := by
  unfold storeOffence?
  split
  · next none_allowed =>
    rw [Option.some.injEq]
    exact ⟨fun same => ⟨none_allowed, same⟩, fun ⟨_, same⟩ => same⟩
  · next other =>
    constructor
    · rintro ⟨⟩
    · rintro ⟨zero, -⟩
      exact absurd zero other

/-! ## Configurations -/

theorem inOrder_routers_iff : routersOffence? .empty c.routers = none ↔ InOrder c.routers :=
  routersOffence?_eq_none_iff gathered_nil inOrder_nil

/-- Well-formedness by what it asks of the sources, of the messages and of the store. -/
theorem wellFormed_iff :
    c.WellFormed ↔ InOrder c.routers ∧ (∀ s ∈ c.seeds, s.source ∈ c.sources) ∧
      ∀ n, c.store = .optimistic n → 1 ≤ n :=
  ⟨fun h => ⟨⟨h.named, h.distinct, h.aimed⟩, h.known, h.attempts⟩,
    fun ⟨order, known, attempts⟩ => ⟨order.named, order.distinct, order.aimed, known, attempts⟩⟩

theorem offence?_eq_none_iff : c.offence? = none ↔ c.WellFormed := by
  rw [offence?, Option.or_eq_none_iff, Option.or_eq_none_iff, inOrder_routers_iff,
    seedOffence?_eq_none_iff, storeOffence?_eq_none_iff, wellFormed_iff]

theorem offence?_eq_some_iff : c.offence? = some o ↔ c.First o := by
  rw [offence?, Option.or_eq_some_iff, Option.or_eq_some_iff, inOrder_routers_iff,
    routersOffence?_eq_some_iff gathered_nil inOrder_nil, seedOffence?_eq_none_iff,
    seedOffence?_eq_some_iff, storeOffence?_eq_some_iff]
  constructor
  · rintro (⟨passed, r, after, split, order, amiss⟩ | ⟨order, seed | store⟩)
    · exact .ofSource split order amiss
    · obtain ⟨earlier, s, later, split, others, unknown, rfl⟩ := seed
      exact .ofSeed order split others unknown
    · obtain ⟨known, zero, rfl⟩ := store
      exact .ofStore order known zero
  · rintro (⟨split, order, amiss⟩ | ⟨order, split, others, unknown⟩ | ⟨order, known, zero⟩)
    · exact .inl ⟨_, _, _, split, order, amiss⟩
    · exact .inr ⟨order, .inl ⟨_, _, _, split, others, unknown, rfl⟩⟩
    · exact .inr ⟨order, .inr ⟨known, zero, rfl⟩⟩

theorem validate_eq_ok_iff : c.validate = .ok () ↔ c.WellFormed := by
  rw [← offence?_eq_none_iff, validate]
  cases c.offence? with
  | none => exact ⟨fun _ => rfl, fun _ => rfl⟩
  | some o =>
    constructor
    · rintro ⟨⟩
    · rintro ⟨⟩

theorem validate_eq_error_iff : c.validate = .error o ↔ c.First o := by
  rw [← offence?_eq_some_iff, validate]
  cases c.offence? with
  | none =>
    constructor
    · rintro ⟨⟩
    · rintro ⟨⟩
  | some other => rw [Except.error.injEq, Option.some.injEq]

/-- A text is accepted if it says a configuration that the check accepts. -/
theorem parse_eq_ok_iff {text : String} :
    parse text = .ok c ↔ Reads text c ∧ c.validate = .ok () := by
  constructor
  · intro accepted
    unfold parse at accepted
    split at accepted
    · cases accepted
    · next v parsed =>
      split at accepted
      · cases accepted
      · next read =>
        split at accepted
        · cases accepted
        · next valid =>
          cases accepted
          exact ⟨⟨v, parsed, read⟩, valid⟩
  · rintro ⟨⟨v, parsed, read⟩, valid⟩
    simp only [parse, parsed, read, valid]

/-- A text is refused for an offence if it says a configuration that the check refuses for it. -/
theorem parse_eq_offence_iff {text : String} :
    parse text = .error (.offence o) ↔ ∃ c, Reads text c ∧ c.validate = .error o := by
  constructor
  · intro refused
    unfold parse at refused
    split at refused
    · cases refused
    · next v parsed =>
      split at refused
      · cases refused
      · next c read =>
        split at refused
        · next invalid =>
          cases refused
          exact ⟨c, ⟨v, parsed, read⟩, invalid⟩
        · cases refused
  · rintro ⟨c, ⟨v, parsed, read⟩, invalid⟩
    simp only [parse, parsed, read, invalid]

/-- **The check accepts exactly the well-formed configurations and reports exactly the first
offence**, of a configuration as of a text that says one. -/
theorem validate_reports_first :
    (∀ c : Config, c.validate = .ok () ↔ c.WellFormed) ∧
      (∀ (c : Config) (o : Offence), c.validate = .error o ↔ c.First o) ∧
      (∀ (text : String) (c : Config), parse text = .ok c ↔ Reads text c ∧ c.WellFormed) ∧
      ∀ (text : String) (o : Offence),
        parse text = .error (.offence o) ↔ ∃ c, Reads text c ∧ c.First o := by
  refine ⟨fun c => validate_eq_ok_iff, fun c o => validate_eq_error_iff, fun text c => ?_,
    fun text o => ?_⟩
  · rw [parse_eq_ok_iff, validate_eq_ok_iff]
  · simp only [parse_eq_offence_iff, validate_eq_error_iff]

/-- The empty target of the first source is reported, whatever else is wrong. -/
example :
    validate
      { store := .optimistic 0
        routers := [{ source := "a", routes := [{ target := "b" }, { target := "" }] },
          { source := "a" }, { source := "" }]
        seeds := [{ source := "c", body := "" }] } =
      .error (.emptyTarget "a" { target := "" }) := rfl

end ChannelRouting.Config
