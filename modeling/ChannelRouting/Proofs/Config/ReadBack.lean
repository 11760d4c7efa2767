import ChannelRouting.Proofs.Config.Offences
import ChannelRouting.Proofs.Json5.Doubles
import ChannelRouting.Proofs.Wire.RoundTrip
import ChannelRouting.Proofs.Wire.Timeouts

/-!
# Configurations are read back

A configuration is written as a JSON value with every member, and read from a JSON5 value in which
most may be left out, so that writing and reading are no mirror images. `ReadBack` says of one value
that it comes back from what is written of it.

Strategies, routes, sources and messages always come back (`ofValue_ofJson`). Waits and stores hold
numbers, and of these only such come back as a double holds: a store of 2⁵³ + 1 attempts would not,
nor a timeout with a fraction of a millisecond. So it is shown of every reader that what it has
read comes back (`readBack_of_ofValue`), with what a field leaves true of the draft of a record
(`asRecord_kept`) taking the place of the cases of the members. An accepted configuration was read,
so all of it comes back, and is accepted again (`accepted_config_reads_back`).

The value of the text that is written (`Value.ofJson`) stands in place of that text: whichever text
has this value is read as the same configuration.
-/

namespace ChannelRouting

open Json5 Json

namespace Json5.Value

variable {α : Type}

/-- **A value comes back** from what is written of it. -/
def ReadBack (write : α → Json) (read : Value → Decoded α) (x : α) : Prop :=
  read (ofJson (write x)) = .ok x

/-! ## Lists and options -/

/-- A list comes back if its elements do. -/
theorem mapM_ofItems {write : α → Json} {read : Value → Decoded α}
    (own : ∀ x, ReadBack write read x) (xs : List α) :
    (ofItems (xs.map write)).mapM read = .ok xs := by
  induction xs with
  | nil => rfl
  | cons x xs ih =>
    rw [List.map_cons, ofItems, List.mapM_cons, own x, ih]
    rfl

theorem map_eq_ok {β : Type} {f : α → β} {x : Decoded α} {b : β} :
    f <$> x = .ok b ↔ ∃ a, x = .ok a ∧ f a = b := by
  cases x with
  | error e =>
    constructor
    · rintro ⟨⟩
    · rintro ⟨_, ⟨⟩, -⟩
  | ok a =>
    constructor
    · rintro ⟨⟩
      exact ⟨a, rfl, rfl⟩
    · rintro ⟨_, ⟨⟩, rfl⟩
      rfl

theorem asOption_asString (s : Option String) :
    asOption asString (ofJson (.ofString? s)) = .ok s := by
  cases s <;> rfl

end Json5.Value

/-! ## Parts without numbers -/

theorem Strategy.asOption_ofValue (s : Option Strategy) :
    Value.asOption Strategy.ofValue (.ofJson (strategyToJson s)) = .ok s := by
  rcases s with _ | _ | _ | _ <;> rfl

theorem RouteSetting.ofValue_ofJson (r : RouteSetting) :
    Value.ReadBack RouteSetting.toJson RouteSetting.ofValue r := by
  have text (s : String) : Value.ReadBack Json.str Value.asString s := rfl
  have keys := Value.mapM_ofItems text r.keys
  simp [Value.ReadBack, ofValue, toJson, ofStrings, Value.ofJson, Value.ofMembers, Value.asRecord,
    Value.recordOfMembers, Value.namedMembers, Record.visit, Record.complete, fields,
    Value.asString, Value.asItems, keys, bind, Except.bind, pure, Except.pure]

theorem RouterSetting.ofValue_ofJson (r : RouterSetting) :
    Value.ReadBack RouterSetting.toJson RouterSetting.ofValue r := by
  have strategy := Strategy.asOption_ofValue r.strategy
  have routes := Value.mapM_ofItems RouteSetting.ofValue_ofJson r.routes
  simp [Value.ReadBack, ofValue, toJson, Value.ofJson, Value.ofMembers, Value.asRecord,
    Value.recordOfMembers, Value.namedMembers, Record.visit, Record.complete, fields,
    Value.asString, Value.asItems, strategy, routes, bind, Except.bind, pure, Except.pure]

theorem SeedMessage.ofValue_ofJson (m : SeedMessage) :
    Value.ReadBack SeedMessage.toJson SeedMessage.ofValue m := by
  have key := Value.asOption_asString m.routingKey
  simp [Value.ReadBack, ofValue, toJson, Value.ofJson, Value.ofMembers, Value.asRecord,
    Value.recordOfMembers, Value.namedMembers, Record.visit, Record.complete, fields,
    Value.asString, key, bind, Except.bind, pure, Except.pure]

/-! ## What reading leaves true of a draft -/

namespace Record

variable {V D : Type} {P : D → Prop} {fields : List (Field V D)} {d e : D}

/-- What a draft has, it has after any field was read into it. -/
def Kept (P : D → Prop) (fields : List (Field V D)) : Prop :=
  ∀ f ∈ fields, ∀ v d e, P d → f.read v d = .ok e → P e

theorem visit_kept {strangers : Strangers} {ignore : V → Decoded Unit} {member : String × V}
    (kept : Kept P fields) (start : P d)
    (visited : visit fields strangers ignore d member = .ok e) : P e := by
  unfold visit at visited
  split at visited
  · next f found =>
    split at visited
    · cases visited
    · exact kept f (List.mem_of_find?_eq_some found) _ _ _ start visited
  · split at visited
    · obtain ⟨_, -, taken⟩ := bind_eq_ok.mp visited
      cases taken
      exact start
    · cases visited

theorem foldlM_visit_kept {strangers : Strangers} {ignore : V → Decoded Unit}
    {members : List (String × V)} (kept : Kept P fields) (start : P d)
    (visited : members.foldlM (visit fields strangers ignore) d = .ok e) : P e := by
  induction members generalizing d with
  | nil =>
    cases visited
    exact start
  | cons p members ih =>
    rw [List.foldlM_cons] at visited
    obtain ⟨d₁, first, visited⟩ := bind_eq_ok.mp visited
    exact ih (visit_kept kept start first) visited

theorem ofSequence_kept {items rest : List V} (kept : Kept P fields) (start : P d)
    (read : ofSequence fields d items = .ok (e, rest)) : P e := by
  induction fields generalizing d items with
  | nil =>
    cases read
    exact start
  | cons f fields ih =>
    have kept_rest : Kept P fields := fun g mem => kept g (List.mem_cons_of_mem f mem)
    cases items with
    | nil =>
      rw [ofSequence] at read
      split at read
      · exact ih kept_rest start read
      · cases read
    | cons v items =>
      obtain ⟨d₁, first, read⟩ := bind_eq_ok.mp read
      exact ih kept_rest (kept f List.mem_cons_self v d d₁ start first) read

theorem eq_of_complete (complete : complete fields d = .ok e) : d = e := by
  unfold Record.complete at complete
  split at complete
  · cases complete
  · cases complete
    rfl

end Record

namespace Json5.Value

variable {D : Type} {P : D → Prop} {fields : List (Record.Field Value D)} {d e : D}

theorem recordOfMembers_kept {strangers : Record.Strangers}
    {members : List (Option String × Value)} (kept : Record.Kept P fields) (start : P d)
    (read : recordOfMembers fields strangers d members = .ok e) : P e := by
  obtain ⟨d₁, visited, taken⟩ := bind_eq_ok.mp read
  have reached := Record.foldlM_visit_kept kept start visited
  split at taken
  · cases taken
  · rwa [← Record.eq_of_complete taken]

/-- **What every field leaves true of a draft is true of the draft of a record.** -/
theorem asRecord_kept {strangers : Record.Strangers} {v : Value} (kept : Record.Kept P fields)
    (start : P d) (read : v.asRecord fields strangers d = .ok e) : P e := by
  cases v with
  | object members => exact recordOfMembers_kept kept start read
  | array items =>
    obtain ⟨⟨d₁, rest⟩, sequence, taken⟩ := bind_eq_ok.mp read
    cases taken
    exact Record.ofSequence_kept kept start sequence
  | null | bool b => cases read
  | number n =>
    cases read
  | text t => cases t <;> cases read

theorem recordContent_kept {content : Option Value} (kept : Record.Kept P fields) (start : P d)
    (read : recordContent fields d content = .ok e) : P e := by
  unfold recordContent at read
  split at read
  · exact recordOfMembers_kept kept start read
  · cases read

/-! ## Numbers -/

/-- A number of 64 bits that comes back. -/
def Steady (m : UInt64) : Prop := ReadBack (fun m : UInt64 => .ofNat m.toNat) asUInt64 m

theorem asUInt64_ofJson {m m' : UInt64} (read : (Number.ofInt m.toNat).toUInt64? = some m') :
    asUInt64 (ofJson (.ofNat m.toNat)) = .ok m' := by
  rw [Json.ofNat, ofJson, asUInt64]
  simp only [read]

/-- **A number of 64 bits that was read comes back.** -/
theorem steady_of_asUInt64 {v : Value} {m : UInt64} (read : v.asUInt64 = .ok m) : Steady m := by
  unfold asUInt64 at read
  split at read
  · split at read
    · next found =>
      cases read
      exact asUInt64_ofJson (Number.toUInt64?_ofInt_of_toUInt64? found)
    · cases read
  · cases read

/-- The draft of a record of one number, if that number comes back. -/
def Holds (draft : Option UInt64) : Prop := Steady (draft.getD 0)

theorem holds_none : Holds none := rfl

/-- A field that holds a number and nothing else. -/
def numberField (name : String) : Record.Field Value (Option UInt64) where
  name := name
  absence := .refused
  isRead := Option.isSome
  read v _ := some <$> v.asUInt64

theorem numberField_kept (name : String) : Record.Kept Holds [numberField name] := by
  intro f mem v d e _ read
  rw [List.mem_singleton.mp mem] at read
  obtain ⟨m, number, rfl⟩ := map_eq_ok.mp read
  exact steady_of_asUInt64 number

/-- A number that comes back does so as the one field of a record. -/
theorem recordContent_number (name : String) {m : UInt64} (steady : Steady m) :
    recordContent [numberField name] none (some (.ofJson (.obj [(name, .ofNat m.toNat)]))) =
      .ok (some m) := by
  have number : asUInt64 (.number (.ofInt m.toNat)) = .ok m := steady
  simp [ofJson, ofMembers, Json.ofNat, recordContent, recordOfMembers, namedMembers, Record.visit,
    Record.complete, numberField, number, Functor.map, Except.map, bind, Except.bind, pure,
    Except.pure]

end Json5.Value

/-! ## Waits, stores and settings of loops -/

namespace WaitPolicy

theorem readBack_indefinite : Value.ReadBack toJson ofValue indefinite := rfl

theorem readBack_immediate : Value.ReadBack toJson ofValue immediate := rfl

theorem toMillis64_ofMillis (ms : UInt64) : (Duration.ofMillis ms).toMillis64 = ms := by
  rw [Duration.toMillis64, Duration.toMillis_eq, Duration.toNanos_ofMillis,
    Nat.mul_div_cancel _ (by decide)]
  exact UInt64.ofNat_toNat

/-- A timeout whose milliseconds come back comes back; that of zero is no timeout any more. -/
theorem readBack_ofTimeout {ms : Option UInt64} (steady : Value.Holds ms) :
    Value.ReadBack toJson ofValue (ofTimeout ms) := by
  unfold Value.Holds at steady
  unfold ofTimeout
  generalize ms.getD 0 = m at steady
  by_cases zero : (Duration.ofMillis m).isZero
  · rw [ofDuration, if_pos zero]
    exact readBack_immediate
  · have content := Value.recordContent_number "timeout_ms" steady
    have read : ofValue (.ofJson (.obj [("timeout", .obj [("timeout_ms", .ofNat m.toNat)])])) =
        ofTimeout <$> Value.recordContent [Value.numberField "timeout_ms"] none
          (some (.ofJson (.obj [("timeout_ms", .ofNat m.toNat)]))) := rfl
    rw [Value.ReadBack, ofDuration, if_neg zero, toJson, toMillis64_ofMillis, read, content]
    exact congrArg Except.ok (if_neg zero)

/-- **A policy that was read comes back.** -/
theorem readBack_of_ofValue {v : Value} {p : WaitPolicy} (read : ofValue v = .ok p) :
    Value.ReadBack toJson ofValue p := by
  obtain ⟨⟨name, content⟩, -, taken⟩ := bind_eq_ok.mp read
  split at taken
  · cases taken
    exact readBack_indefinite
  · cases taken
    exact readBack_immediate
  · obtain ⟨ms, record, rfl⟩ := Value.map_eq_ok.mp taken
    have kept := Value.numberField_kept "timeout_ms"
    exact readBack_ofTimeout (Value.recordContent_kept kept Value.holds_none record)

end WaitPolicy

namespace StoreKind

theorem readBack_inMemory : Value.ReadBack toJson ofValue inMemory := rfl

theorem readBack_optimistic {attempts : Option UInt64} (steady : Value.Holds attempts) :
    Value.ReadBack toJson ofValue (optimistic (attempts.getD 0).toNat) := by
  unfold Value.Holds at steady
  generalize attempts.getD 0 = m at steady
  have content := Value.recordContent_number "max_attempts" steady
  have read : ofValue (.ofJson (optimistic m.toNat).toJson) =
      Value.recordContent [Value.numberField "max_attempts"] none
        (some (.ofJson (.obj [("max_attempts", .ofNat m.toNat)]))) >>=
          fun attempts => .ok (optimistic (attempts.getD 0).toNat) := rfl
  rw [Value.ReadBack, read, content]
  rfl

/-- **A kind of store that was read comes back.** -/
theorem readBack_of_ofValue {v : Value} {kind : StoreKind} (read : ofValue v = .ok kind) :
    Value.ReadBack toJson ofValue kind := by
  obtain ⟨⟨name, content⟩, -, taken⟩ := bind_eq_ok.mp read
  split at taken
  · cases taken
    exact readBack_inMemory
  · obtain ⟨attempts, record, taken⟩ := bind_eq_ok.mp taken
    cases taken
    have kept := Value.numberField_kept "max_attempts"
    exact readBack_optimistic (Value.recordContent_kept kept Value.holds_none record)

end StoreKind

namespace LoopConfig

theorem ofValue_ofJson {c : LoopConfig}
    (receiveWait : Value.ReadBack WaitPolicy.toJson WaitPolicy.ofValue c.receiveWait)
    (sendWait : Value.ReadBack WaitPolicy.toJson WaitPolicy.ofValue c.sendWait) :
    Value.ReadBack toJson ofValue c := by
  unfold Value.ReadBack at receiveWait sendWait
  simp [Value.ReadBack, ofValue, toJson, ofDraft, Value.ofJson, Value.ofMembers, Value.asRecord,
    Value.recordOfMembers, Value.namedMembers, Record.visit, Record.complete, fields, receiveWait,
    sendWait, Functor.map, Except.map, bind, Except.bind, pure, Except.pure]

/-- The waits in a draft come back, defaults included. -/
structure Comes (d : Draft) : Prop where
  receiveWait : Value.ReadBack WaitPolicy.toJson WaitPolicy.ofValue (d.receiveWait.getD .indefinite)
  sendWait : Value.ReadBack WaitPolicy.toJson WaitPolicy.ofValue (d.sendWait.getD .immediate)

theorem kept_comes : Record.Kept Comes (fields WaitPolicy.ofValue) := by
  intro f mem v d e comes read
  simp only [fields, List.mem_cons, List.not_mem_nil, or_false] at mem
  rcases mem with rfl | rfl
  · obtain ⟨p, own, put⟩ := bind_eq_ok.mp read
    cases put
    exact ⟨WaitPolicy.readBack_of_ofValue own, comes.sendWait⟩
  · obtain ⟨p, own, put⟩ := bind_eq_ok.mp read
    cases put
    exact ⟨comes.receiveWait, WaitPolicy.readBack_of_ofValue own⟩

/-- **Settings of loops that were read come back.** -/
theorem readBack_of_ofValue {v : Value} {c : LoopConfig} (read : ofValue v = .ok c) :
    Value.ReadBack toJson ofValue c := by
  obtain ⟨d, record, rfl⟩ := Value.map_eq_ok.mp read
  have start : Comes {} := ⟨WaitPolicy.readBack_indefinite, WaitPolicy.readBack_immediate⟩
  have comes := Value.asRecord_kept kept_comes start record
  exact ofValue_ofJson comes.receiveWait comes.sendWait

end LoopConfig

/-! ## Configurations -/

namespace Config

theorem ofValue_ofJson {c : Config}
    (loops : Value.ReadBack LoopConfig.toJson LoopConfig.ofValue c.loops)
    (store : Value.ReadBack StoreKind.toJson StoreKind.ofValue c.store) :
    Value.ReadBack toJson ofValue c := by
  have routers := Value.mapM_ofItems RouterSetting.ofValue_ofJson c.routers
  have seeds := Value.mapM_ofItems SeedMessage.ofValue_ofJson c.seeds
  unfold Value.ReadBack at loops store
  simp [Value.ReadBack, ofValue, toJson, Value.ofJson, Value.ofMembers, Value.asRecord,
    Value.recordOfMembers, Value.namedMembers, Record.visit, Record.complete, fields,
    Value.asItems, loops, store, routers, seeds, bind, Except.bind, pure, Except.pure]

/-- What holds numbers in a draft comes back, defaults included. -/
structure Comes (d : Draft) : Prop where
  loops : Value.ReadBack LoopConfig.toJson LoopConfig.ofValue (d.loops.getD {})
  store : Value.ReadBack StoreKind.toJson StoreKind.ofValue (d.store.getD .inMemory)

theorem kept_comes : Record.Kept Comes fields := by
  intro f mem v d e comes read
  simp only [fields, List.mem_cons, List.not_mem_nil, or_false] at mem
  rcases mem with rfl | rfl | rfl | rfl
  · obtain ⟨loops, own, put⟩ := bind_eq_ok.mp read
    cases put
    exact ⟨LoopConfig.readBack_of_ofValue own, comes.store⟩
  · obtain ⟨store, own, put⟩ := bind_eq_ok.mp read
    cases put
    exact ⟨comes.loops, StoreKind.readBack_of_ofValue own⟩
  · obtain ⟨items, -, read⟩ := bind_eq_ok.mp read
    obtain ⟨routers, -, put⟩ := bind_eq_ok.mp read
    cases put
    exact ⟨comes.loops, comes.store⟩
  · obtain ⟨items, -, read⟩ := bind_eq_ok.mp read
    obtain ⟨seeds, -, put⟩ := bind_eq_ok.mp read
    cases put
    exact ⟨comes.loops, comes.store⟩

/-- **A configuration that was read comes back**, whatever is wrong with it. -/
theorem readBack_of_ofValue {v : Value} {c : Config} (read : ofValue v = .ok c) :
    Value.ReadBack toJson ofValue c := by
  obtain ⟨d, record, taken⟩ := bind_eq_ok.mp read
  cases taken
  have start : Comes {} :=
    ⟨LoopConfig.ofValue_ofJson WaitPolicy.readBack_indefinite WaitPolicy.readBack_immediate,
      StoreKind.readBack_inMemory⟩
  have comes := Value.asRecord_kept kept_comes start record
  exact ofValue_ofJson comes.loops comes.store

/-- **An accepted configuration is read back and accepted again**, from every text that has the
value of what is written. -/
theorem accepted_config_reads_back {text : String} {c : Config} (accepted : parse text = .ok c) :
    ofValue (.ofJson c.toJson) = .ok c ∧ c.validate = .ok () ∧
      ∀ written, Value.parse? written = some (.ofJson c.toJson) → parse written = .ok c := by
  obtain ⟨⟨v, -, read⟩, valid⟩ := parse_eq_ok_iff.mp accepted
  have back := readBack_of_ofValue read
  exact ⟨back, valid, fun written same => parse_eq_ok_iff.mpr ⟨⟨_, same, back⟩, valid⟩⟩

/-- One source, and defaults for all else. -/
def sparse : Config where
  routers := [{ source := "a" }]

/-- A text of it that gives a timeout of zero and leaves out what may be left out. -/
def sparseText : String :=
  "\x7brouter_config:\x7bsend_wait:\x7btimeout:\x7btimeout_ms:0\x7d\x7d\x7d," ++
  "routers:[\x7bsource:\"a\"\x7d]\x7d"

/-- The text that is written of it. -/
def sparseWritten : String :=
  "\x7b\"router_config\":\x7b\"receive_wait\":\"indefinite\",\"send_wait\":\"immediate\"\x7d," ++
  "\"store\":\"in_memory\"," ++
  "\"routers\":[\x7b\"source\":\"a\",\"strategy\":null,\"routes\":[]\x7d]," ++
  "\"seed_messages\":[]\x7d"

/-- The tokens of the written text, one line for each member. -/
def sparseTokens : List Token :=
  [.openBrace, .quoted "router_config", .colon,
    .openBrace, .quoted "receive_wait", .colon, .quoted "indefinite", .comma,
    .quoted "send_wait", .colon, .quoted "immediate", .closeBrace, .comma,
    .quoted "store", .colon, .quoted "in_memory", .comma,
    .quoted "routers", .colon, .openBracket,
    .openBrace, .quoted "source", .colon, .quoted "a", .comma,
    .quoted "strategy", .colon, .name ("null".toList.map .char) "null", .comma,
    .quoted "routes", .colon, .openBracket, .closeBracket, .closeBrace, .closeBracket, .comma,
    .quoted "seed_messages", .colon, .openBracket, .closeBracket, .closeBrace]

theorem parse?_sparseWritten : Value.parse? sparseWritten = some (.ofJson sparse.toJson) := by
  have scanned : Token.scan sparseWritten = some sparseTokens := by decide +kernel
  rw [Value.parse?, scanned]
  rfl

/-- The text that is written of a sparse configuration has all its members, and no timeout. -/
theorem accepted_config_reads_back_sparse :
    parse sparseText = .ok sparse ∧ ofValue (.ofJson sparse.toJson) = .ok sparse ∧
      sparse.validate = .ok () ∧ parse sparseWritten = .ok sparse := by
  have accepted : parse sparseText = .ok sparse := by decide +kernel
  obtain ⟨back, valid, again⟩ := accepted_config_reads_back accepted
  exact ⟨accepted, back, valid, again sparseWritten parse?_sparseWritten⟩

end Config

end ChannelRouting
