import ChannelRouting.Proofs.Update.Step
import ChannelRouting.Store
import Mathlib.Logic.Function.Basic

/-!
# Stores that agree

To callers that come one after another a store is a map from keys to entries. `Operation`
lists what can be asked of it; `Operation.answer` and `Operation.effect` say what the map
answers and what becomes of it. Both kinds of store do as the map does, and never fail
(`performs`): the table whose mutations are indivisible at once, and the versioned table
because an update that nobody disturbs needs one attempt (`Update.run_alone`), so the
number of attempts it is allowed does not matter.

What a store shows of itself is the map, so two stores that show the same map cannot be
told apart by any sequence of operations (`answers_eq`, `entry?_after`).
-/

namespace ChannelRouting

/-! ## An update that nobody disturbs -/

/-- A swap under the version that was loaded succeeds. -/
theorem VersionedTable.swap_loaded {t : VersionedTable} {key : ChannelKey} {w : Versioned}
    (h : t.load key = some w) (next : Entry) :
    t.swap key w.version next = (true, t.insert key { version := w.version + 1, entry := next }) := by
  have found : t.get? key = some w := h
  simp only [VersionedTable.swap, found, if_true]

namespace Update

/-- **An update that has the table to itself needs one attempt.** -/
theorem run_alone (u : Update) (t : VersionedTable) :
    run .alone u t =
      match t.load u.key with
      | none => (.ok none, t)
      | some w =>
        (.ok (some (u.mutation.apply w.entry)),
          t.insert u.key { version := w.version + 1, entry := u.mutation.apply w.entry }) := by
  obtain ⟨fuel, enough⟩ : ∃ fuel, 2 * u.attempts = fuel + 2 := by
    have one : 1 ≤ u.attempts := Nat.le_max_right u.limit 1
    exact ⟨2 * u.attempts - 2, by omega⟩
  have loaded : step .alone u (.loading 1) t = (u.afterLoad 1 (.ok (t.load u.key)), t) :=
    step_loading ..
  rw [run, enough, runFrom_loading, loaded]
  cases found : t.load u.key with
  | none => exact runFrom_finished ..
  | some w =>
    have swapped : step .alone u (.swapping 1 w.version (u.mutation.apply w.entry)) t =
        (.finished (.ok (some (u.mutation.apply w.entry))),
          t.insert u.key { version := w.version + 1, entry := u.mutation.apply w.entry }) := by
      rw [step_swapping]
      simp only [Access.alone, VersionedTable.swap_loaded found]
    show runFrom .alone u (fuel + 1) (.swapping 1 w.version (u.mutation.apply w.entry)) t = _
    rw [runFrom_swapping, swapped]
    exact runFrom_finished ..

end Update

/-! ## Maps -/

namespace SortedMap

variable {α β : Type} [LT α] [DecidableLT α] [KeyOrder α] [DecidableEq α]

theorem get?_insert (m : SortedMap α β) (k : α) (v : β) :
    (m.insert k v).get? = Function.update m.get? k (some v) := by
  funext x
  by_cases hx : x = k
  · subst hx
    rw [Function.update_self, get?_insert_self]
  · rw [Function.update_of_ne hx, get?_insert_of_ne hx]

theorem get?_erase (m : SortedMap α β) (k : α) :
    (m.erase k).get? = Function.update m.get? k none := by
  funext x
  by_cases hx : x = k
  · subst hx
    rw [Function.update_self, get?_erase_self]
  · rw [Function.update_of_ne hx, get?_erase_of_ne hx]

end SortedMap

namespace Store

/-- What can be asked of a store. -/
inductive Operation where
  | get (key : ChannelKey)
  | putIfAbsent (e : Entry)
  | execute (key : ChannelKey) (m : Mutation)
  | remove (key : ChannelKey)
deriving DecidableEq

namespace Operation

/-- The key that an operation is about. -/
def key : Operation → ChannelKey
  | get key => key
  | putIfAbsent e => e.channel
  | execute key _ => key
  | remove key => key

/-- What a map answers in which the key has some entry or none. -/
def answer (present : Option Entry) : Operation → Option Entry
  | get _ => present
  | putIfAbsent _ => present
  | execute _ m => m.applyIfPresent present
  | remove _ => present

/-- The entry that the key has afterwards. -/
def effect (present : Option Entry) : Operation → Option Entry
  | get _ => present
  | putIfAbsent e => present.or (some e)
  | execute _ m => m.applyIfPresent present
  | remove _ => none

/-- The map after an operation. -/
def on (c : ChannelKey → Option Entry) (op : Operation) : ChannelKey → Option Entry :=
  Function.update c op.key (op.effect (c op.key))

/-- What a map answers to operations in order. -/
def answersOn (c : ChannelKey → Option Entry) : List Operation → List (Option Entry)
  | [] => []
  | op :: rest => op.answer (c op.key) :: answersOn (op.on c) rest

end Operation

/-- Carries out an operation. -/
def perform (s : Store) : Operation → Except StoreError (Option Entry) × Store
  | .get key => s.get key
  | .putIfAbsent e => s.putIfAbsent e
  | .execute key m => s.execute key m
  | .remove key => s.remove key

/-- The store after operations in order. -/
def after (s : Store) (ops : List Operation) : Store := ops.foldl (fun s op => (s.perform op).2) s

/-- What it answers to each of them. -/
def answers (s : Store) : List Operation → List (Except StoreError (Option Entry))
  | [] => []
  | op :: rest => (s.perform op).1 :: (s.perform op).2.answers rest

/-! ## One operation -/

/-- **A store does what a map does**: it answers as the map of its entries, without failing, and
turns into a store of the map as it is then. -/
structure Performs (s : Store) (op : Operation) : Prop where
  answer : (s.perform op).1 = .ok (op.answer (s.entry? op.key))
  effect : entry? (s.perform op).2 = op.on s.entry?

/-- What is to be shown of an operation that meets some entry or none. -/
theorem performs_of {s : Store} (s' : Store) {op : Operation} {present : Option Entry}
    (met : s.entry? op.key = present) (ran : s.perform op = (.ok (op.answer present), s'))
    (effect : s'.entry? = Function.update s.entry? op.key (op.effect present)) : s.Performs op := by
  refine ⟨?_, ?_⟩
  · rw [ran, met]
  · rw [ran, Operation.on, met]
    exact effect

/-- Nothing changes if the key keeps its entry. -/
theorem entry?_kept {s : Store} {key : ChannelKey} {present : Option Entry}
    (met : s.entry? key = present) : s.entry? = Function.update s.entry? key present :=
  (Function.update_eq_self_iff.mpr met.symm).symm

theorem entry?_optimistic (limit : Nat) (t : VersionedTable) :
    entry? (optimistic limit t) = Option.map Versioned.entry ∘ t.get? := rfl

/-- The table whose mutations are indivisible. -/
theorem performs_memory (t : Table) (op : Operation) : (memory t).Performs op := by
  cases op with
  | get key => exact performs_of _ rfl rfl (entry?_kept rfl)
  | putIfAbsent e =>
    cases met : t.get? e.channel with
    | none =>
      have put : t.putIfAbsent e = (none, t.insert e.channel e) := by
        simp only [Table.putIfAbsent, met]
      refine performs_of (memory (t.insert e.channel e)) met ?_ ?_
      · simp only [perform, Store.putIfAbsent, put, Operation.answer]
      · exact SortedMap.get?_insert t e.channel e
    | some present =>
      have put : t.putIfAbsent e = (some present, t) := by
        simp only [Table.putIfAbsent, met]
      refine performs_of (memory t) met ?_ (entry?_kept met)
      simp only [perform, Store.putIfAbsent, put, Operation.answer]
  | execute key m =>
    cases met : t.get? key with
    | none =>
      have done : t.execute key m = (none, t) := by simp only [Table.execute, met]
      refine performs_of (memory t) met ?_ (entry?_kept met)
      simp only [perform, Store.execute, done]
      rfl
    | some e =>
      have done : t.execute key m = (some (m.apply e), t.insert key (m.apply e)) := by
        simp only [Table.execute, met]
      refine performs_of (memory (t.insert key (m.apply e))) met ?_ ?_
      · simp only [perform, Store.execute, done]
        rfl
      · exact SortedMap.get?_insert t key (m.apply e)
  | remove key => exact performs_of _ rfl rfl (SortedMap.get?_erase t key)

theorem entry?_optimistic_insert (limit : Nat) (t : VersionedTable) (key : ChannelKey)
    (w : Versioned) :
    entry? (optimistic limit (t.insert key w)) =
      Function.update ( entry? (optimistic limit t)) key (some w.entry) := by
  rw [entry?_optimistic, entry?_optimistic, SortedMap.get?_insert]
  exact Function.comp_update ..

theorem entry?_optimistic_erase (limit : Nat) (t : VersionedTable) (key : ChannelKey) :
    entry? (optimistic limit (t.erase key)) =
      Function.update ( entry? (optimistic limit t)) key none := by
  rw [entry?_optimistic, entry?_optimistic, SortedMap.get?_erase]
  exact Function.comp_update ..

/-- The versioned table, whatever the number of attempts that an update is allowed. -/
theorem performs_optimistic (limit : Nat) (t : VersionedTable) (op : Operation) :
    (optimistic limit t).Performs op := by
  have shown {key : ChannelKey} {found : Option Versioned} (met : t.get? key = found) :
      entry? (optimistic limit t) key = found.map Versioned.entry :=
    congrArg (Option.map Versioned.entry) met
  cases op with
  | get key => exact performs_of _ rfl rfl (entry?_kept rfl)
  | putIfAbsent e =>
    cases met : t.get? e.channel with
    | none =>
      have put : t.insertIfAbsent e =
          (none, t.insert e.channel { version := 0, entry := e }) := by
        simp only [VersionedTable.insertIfAbsent, met]
      refine performs_of _ (shown met) ?_ (entry?_optimistic_insert limit t e.channel ⟨0, e⟩)
      simp only [perform, Store.putIfAbsent, put]
      rfl
    | some w =>
      have put : t.insertIfAbsent e = (some w.entry, t) := by
        simp only [VersionedTable.insertIfAbsent, met]
      refine performs_of _ (shown met) ?_ (entry?_kept (shown met))
      simp only [perform, Store.putIfAbsent, put]
      rfl
  | execute key m =>
    have ran := Update.run_alone { key := key, mutation := m, limit := limit } t
    cases met : t.load key with
    | none =>
      simp only [met] at ran
      refine performs_of _ (shown met) ?_ (entry?_kept (shown met))
      simp only [perform, Store.execute, ran]
      rfl
    | some w =>
      simp only [met] at ran
      refine performs_of _ (shown met) ?_
        (entry?_optimistic_insert limit t key ⟨w.version + 1, m.apply w.entry⟩)
      simp only [perform, Store.execute, ran]
      rfl
  | remove key => exact performs_of _ rfl rfl (entry?_optimistic_erase limit t key)

/-- **Every store does what a map does.** -/
theorem performs (s : Store) (op : Operation) : s.Performs op := by
  cases s with
  | memory t => exact performs_memory t op
  | optimistic limit t => exact performs_optimistic limit t op

/-! ## Operations in order -/

/-- **The answers of a store are those of the map of its entries.** -/
theorem answers_eq (s : Store) (ops : List Operation) :
    s.answers ops = (Operation.answersOn s.entry? ops).map .ok := by
  induction ops generalizing s with
  | nil => rfl
  | cons op rest ih =>
    rw [answers, ih, (s.performs op).answer, (s.performs op).effect]
    rfl

/-- **The entries of a store are those of the map.** -/
theorem entry?_after (s : Store) (ops : List Operation) :
    entry? (s.after ops) = ops.foldl Operation.on s.entry? := by
  induction ops generalizing s with
  | nil => rfl
  | cons op rest ih =>
    show entry? ((s.perform op).2.after rest) = rest.foldl Operation.on (op.on s.entry?)
    rw [ih, (s.performs op).effect]

/-- A store without entries is the empty map. -/
theorem entry?_ofKind (kind : StoreKind) : entry? (ofKind kind) = fun _ => none := by
  cases kind <;> rfl

/-- **The kinds of stores cannot be told apart.** Whatever is asked of two stores without entries,
one of each kind, they answer alike and never fail, and after every operation every key has the
same entry in both. -/
theorem kinds_agree (limit : Nat) (ops : List Operation) :
    (ofKind .inMemory).answers ops = (ofKind (.optimistic limit)).answers ops ∧
      (∀ a ∈ (ofKind .inMemory).answers ops, ∃ found, a = .ok found) ∧
      ∀ i key, entry? ((ofKind .inMemory).after (ops.take i)) key =
        entry? ((ofKind (.optimistic limit)).after (ops.take i)) key := by
  refine ⟨?_, ?_, ?_⟩
  · rw [answers_eq, answers_eq, entry?_ofKind, entry?_ofKind]
  · intro a ha
    rw [answers_eq] at ha
    obtain ⟨found, -, rfl⟩ := List.mem_map.mp ha
    exact ⟨found, rfl⟩
  · intro i key
    rw [entry?_after, entry?_after, entry?_ofKind, entry?_ofKind]

end Store

end ChannelRouting
