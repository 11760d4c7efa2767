import ChannelRouting.Proofs.Update.Step
import Mathlib.Logic.Function.Basic

/-!
# Calls that overlap on one versioned table

Any number of callers share one versioned table. They put entries, read them,
remove them and mutate them. Putting, reading and removing settle in one step. A
mutation is an update (`Update.step`): it loads in one step and swaps in another,
and between any two of its steps every other call may take steps of its own.

A schedule is a list of actions, and `run` carries it out on a table without
entries. Nothing restricts the order: a caller that makes one call after another
is a schedule in which its next call begins when the last one has finished, so
every order in which the steps of any number of callers may follow one another is
a schedule. A call keeps its place in `State.calls` when it has finished, and its
phase then holds what it returned.

`State.history` says what was done to the table, in order. `State.view` is all of
this as far as it concerns one key, and `seen` says once and for all what an
action is to one key: every invariant of overlapping calls is proved by cases on
`Seen`.
-/

namespace ChannelRouting.Overlap

/-- A mutation that somebody asked for: the calls on one key have numbers. -/
structure CallId where
  key : ChannelKey
  number : Nat
deriving DecidableEq

/-- What happens next. -/
inductive Action where
  | put (e : Entry)
  | get (key : ChannelKey)
  | remove (key : ChannelKey)
  /-- A call begins, allowed a number of attempts; an identity in use is refused. -/
  | call (id : CallId) (m : Mutation) (limit : Nat)
  /-- A call takes its next step. -/
  | turn (id : CallId)
deriving DecidableEq

def Action.key : Action → ChannelKey
  | put e => e.channel
  | get key => key
  | remove key => key
  | call id _ _ => id.key
  | turn id => id.key

/-- What was done to the table, and what it answered. -/
inductive Deed where
  | put (e : Entry) (present : Option Entry)
  | got (key : ChannelKey) (found : Option Entry)
  | removed (key : ChannelKey) (gone : Option Entry)
  | loaded (id : CallId) (found : Option Versioned)
  | swapped (id : CallId) (m : Mutation) (version : Nat) (written : Entry) (done : Bool)
deriving DecidableEq

def Deed.key : Deed → ChannelKey
  | put e _ => e.channel
  | got key _ => key
  | removed key _ => key
  | loaded id _ => id.key
  | swapped id _ _ _ _ => id.key

/-- The table, with what was done to it. -/
structure Shared where
  table : VersionedTable := .empty
  history : List Deed := []

def Shared.note (s : Shared) (d : Deed) : Shared := { s with history := s.history ++ [d] }

/-- The table as the update of a call sees it. -/
def access (id : CallId) (m : Mutation) : Update.Access Shared where
  load key s := (.ok (s.table.load key), s.note (.loaded id (s.table.load key)))
  swap key version e s :=
    let (done, t) := s.table.swap key version e
    (.ok done, { s with table := t }.note (.swapped id m version e done))
  emit _ := pure ()
  pause := pure ()

/-- A call that has begun. -/
structure Call where
  mutation : Mutation
  limit : Nat
  phase : Update.Phase := .loading 1

/-- The update that a call makes. -/
def Call.update (id : CallId) (c : Call) : Update :=
  { key := id.key, mutation := c.mutation, limit := c.limit }

/-- The table with its history, and the calls that have begun. -/
structure State where
  shared : Shared := {}
  calls : CallId → Option Call := fun _ => none

namespace State

def table (s : State) : VersionedTable := s.shared.table

def history (s : State) : List Deed := s.shared.history

/-- The state after an action. -/
def perform (s : State) : Action → State
  | .put e =>
    let (present, t) := s.table.insertIfAbsent e
    { s with shared := { s.shared with table := t }.note (.put e present) }
  | .get key =>
    { s with shared := s.shared.note (.got key ((s.table.load key).map Versioned.entry)) }
  | .remove key =>
    let (gone, t) := s.table.delete key
    { s with shared := { s.shared with table := t }.note (.removed key gone) }
  | .call id m limit =>
    match s.calls id with
    | some _ => s
    | none => { s with calls := Function.update s.calls id (some { mutation := m, limit := limit }) }
  | .turn id =>
    match s.calls id with
    | none => s
    | some c =>
      let stepped := Update.step (access id c.mutation) (c.update id) c.phase s.shared
      { shared := stepped.2, calls := Function.update s.calls id (some { c with phase := stepped.1 }) }

/-- The state after actions in order. -/
def after (s : State) (schedule : List Action) : State := schedule.foldl perform s

end State

/-- What becomes of a table without entries. -/
def run (schedule : List Action) : State := State.after {} schedule

@[simp] theorem after_append (s : State) (l₁ l₂ : List Action) :
    s.after (l₁ ++ l₂) = (s.after l₁).after l₂ := List.foldl_append

theorem after_cons (s : State) (a : Action) (l : List Action) :
    s.after (a :: l) = (s.perform a).after l := rfl

theorem run_append (l₁ l₂ : List Action) : run (l₁ ++ l₂) = (run l₁).after l₂ := after_append ..

/-! ## One call -/

theorem access_silent (id : CallId) (m : Mutation) : (access id m).Silent :=
  ⟨fun _ _ => rfl, fun _ => rfl⟩

theorem step_loading (id : CallId) (m : Mutation) (u : Update) (a : Nat) (s : Shared) :
    Update.step (access id m) u (.loading a) s =
      (u.afterLoad a (.ok (s.table.load u.key)), s.note (.loaded id (s.table.load u.key))) :=
  Update.step_loading ..

/-- A swap succeeds exactly if the entry is there under the expected version. -/
theorem swap_eq (t : VersionedTable) (key : ChannelKey) (version : Nat) (next : Entry) :
    t.swap key version next =
      if (t.load key).map Versioned.version = some version then
        (true, t.insert key { version := version + 1, entry := next })
      else (false, t) := by
  unfold VersionedTable.swap VersionedTable.load
  cases t.get? key with
  | none => rfl
  | some v =>
    by_cases h : v.version = version
    · simp only [h, ↓reduceIte, Option.map_some]
    · simp only [h, ↓reduceIte, Option.map_some, Option.some.injEq]

/-- The version under which an entry is stored is the one a swap expects. -/
def Expected (t : VersionedTable) (key : ChannelKey) (version : Nat) : Prop :=
  (t.load key).map Versioned.version = some version

theorem step_landed (id : CallId) (m : Mutation) (u : Update) (a version : Nat) (next : Entry)
    (s : Shared) (h : Expected s.table u.key version) :
    Update.step (access id m) u (.swapping a version next) s =
      (.finished (.ok (some next)),
        { s with table := s.table.insert u.key { version := version + 1, entry := next } }.note
          (.swapped id m version next true)) := by
  rw [Update.step_swapping]
  simp only [access, swap_eq, if_pos (show _ = _ from h)]

theorem step_refused (id : CallId) (m : Mutation) (u : Update) (a version : Nat) (next : Entry)
    (s : Shared) (h : ¬ Expected s.table u.key version) :
    Update.step (access id m) u (.swapping a version next) s =
      (u.refused a, s.note (.swapped id m version next false)) := by
  rw [Update.step_swapping]
  have silent := access_silent id m
  simp only [access, swap_eq, if_neg (show ¬ _ = _ from h)] at silent ⊢
  exact Update.afterRefusal_silent silent ..

/-- **A call takes the steps of a store's mutation**: its phases and its changes of the table
are those of an update that has the table to itself. -/
theorem step_access (id : CallId) (m : Mutation) (u : Update) (p : Update.Phase) (s : Shared) :
    (Update.step (access id m) u p s).1 = (Update.step .alone u p s.table).1 ∧
      (Update.step (access id m) u p s).2.table = (Update.step .alone u p s.table).2 := by
  cases p with
  | loading a =>
    rw [step_loading, Update.step_loading]
    exact ⟨rfl, rfl⟩
  | swapping a version next =>
    rw [Update.step_swapping .alone]
    by_cases h : Expected s.table u.key version
    · rw [step_landed _ _ _ _ _ _ _ h]
      simp only [Update.Access.alone, swap_eq, if_pos (show _ = _ from h)]
      exact ⟨trivial, rfl⟩
    · rw [step_refused _ _ _ _ _ _ _ h]
      have silent := Update.alone_silent
      simp only [Update.Access.alone, swap_eq, if_neg (show ¬ _ = _ from h)] at silent ⊢
      rw [Update.afterRefusal_silent silent]
      exact ⟨rfl, rfl⟩
  | finished r => exact ⟨rfl, rfl⟩

/-! ## What an action is to one key -/

/-- All that concerns one key: its entry, what was done to it, and its calls by number. -/
structure View where
  stored : Option Versioned
  deeds : List Deed
  calls : Nat → Option Call

/-- A view in which a deed was done and the entry is another. -/
def View.done (v : View) (stored : Option Versioned) (d : Deed) : View :=
  { v with stored := stored, deeds := v.deeds ++ [d] }

/-- A view in which a call is in another phase. -/
def View.setPhase (v : View) (n : Nat) (c : Call) (phase : Update.Phase) : View :=
  { v with calls := Function.update v.calls n (some { c with phase := phase }) }

@[simp] theorem View.calls_done (v : View) (stored : Option Versioned) (d : Deed) :
    (v.done stored d).calls = v.calls := rfl

theorem View.calls_setPhase_self (v : View) (n : Nat) (c : Call) (phase : Update.Phase) :
    (v.setPhase n c phase).calls n = some { c with phase := phase } := Function.update_self ..

theorem View.calls_setPhase_of_ne {v : View} {n k : Nat} {c : Call} {phase : Update.Phase}
    (h : k ≠ n) : (v.setPhase n c phase).calls k = v.calls k := Function.update_of_ne h ..

/-- The view that a key has of a state. -/
def State.view (s : State) (key : ChannelKey) : View where
  stored := s.table.load key
  deeds := s.history.filter (fun d => d.key = key)
  calls n := s.calls ⟨key, n⟩

/-- **What an action is to a key**, by what the action asks for and what it meets. A turn is a
load or a swap of the call, or nothing once the call has finished. -/
inductive Seen (key : ChannelKey) (v : View) : Action → View → Prop
  | elsewhere (a : Action) : a.key ≠ key → Seen key v a v
  | inserted (e : Entry) : e.channel = key → v.stored = none →
    Seen key v (.put e) (v.done (some { version := 0, entry := e }) (.put e none))
  | present (e : Entry) (w : Versioned) : e.channel = key → v.stored = some w →
    Seen key v (.put e) (v.done v.stored (.put e (some w.entry)))
  | got : Seen key v (.get key) (v.done v.stored (.got key (v.stored.map Versioned.entry)))
  | removed : Seen key v (.remove key)
      (v.done none (.removed key (v.stored.map Versioned.entry)))
  | began (n : Nat) (m : Mutation) (limit : Nat) : v.calls n = none →
    Seen key v (.call ⟨key, n⟩ m limit)
      { v with calls := Function.update v.calls n (some { mutation := m, limit := limit }) }
  | taken (n : Nat) (m : Mutation) (limit : Nat) (c : Call) : v.calls n = some c →
    Seen key v (.call ⟨key, n⟩ m limit) v
  | unknown (n : Nat) : v.calls n = none → Seen key v (.turn ⟨key, n⟩) v
  | loaded (n : Nat) (c : Call) (a : Nat) : v.calls n = some c → c.phase = .loading a →
    Seen key v (.turn ⟨key, n⟩)
      ((v.done v.stored (.loaded ⟨key, n⟩ v.stored)).setPhase n c
        ((c.update ⟨key, n⟩).afterLoad a (.ok v.stored)))
  | landed (n : Nat) (c : Call) (a : Nat) (w : Versioned) (next : Entry) :
    v.calls n = some c → c.phase = .swapping a w.version next → v.stored = some w →
    Seen key v (.turn ⟨key, n⟩)
      ((v.done (some { version := w.version + 1, entry := next })
        (.swapped ⟨key, n⟩ c.mutation w.version next true)).setPhase n c
          (.finished (.ok (some next))))
  | refused (n : Nat) (c : Call) (a version : Nat) (next : Entry) :
    v.calls n = some c → c.phase = .swapping a version next →
    v.stored.map Versioned.version ≠ some version →
    Seen key v (.turn ⟨key, n⟩)
      ((v.done v.stored (.swapped ⟨key, n⟩ c.mutation version next false)).setPhase n c
        ((c.update ⟨key, n⟩).refused a))
  | settled (n : Nat) (c : Call) (r : Except StoreError (Option Entry)) :
    v.calls n = some c → c.phase = .finished r → Seen key v (.turn ⟨key, n⟩) v

/-- A deed on the key is the last of its view. -/
theorem view_note_self {s : State} {t : VersionedTable} {d : Deed} (key : ChannelKey)
    (h : d.key = key) :
    State.view { s with shared := { s.shared with table := t }.note d } key =
      (s.view key).done (t.load key) d := by
  have last : [d].filter (fun x => decide (x.key = key)) = [d] :=
    List.filter_cons_of_pos (decide_eq_true h)
  simp only [State.view, State.table, State.history, Shared.note, View.done, List.filter_append,
    last]

/-- A deed on another key that keeps the key's entry is not seen. -/
theorem view_note_other {s : State} {t : VersionedTable} {d : Deed} (key : ChannelKey)
    (h : d.key ≠ key) (same : t.load key = s.table.load key) :
    State.view { s with shared := { s.shared with table := t }.note d } key = s.view key := by
  have unseen : [d].filter (fun x => decide (x.key = key)) = [] :=
    List.filter_cons_of_neg (by simpa using h)
  simp only [State.view, State.table, State.history, Shared.note, List.filter_append, unseen,
    List.append_nil]
  simp only [same, State.table]

theorem view_calls_self {sh : Shared} {calls : CallId → Option Call} {key : ChannelKey} {n : Nat}
    {c : Option Call} :
    State.view { shared := sh, calls := Function.update calls ⟨key, n⟩ c } key =
      { State.view { shared := sh, calls := calls } key with
        calls := Function.update (fun k => calls ⟨key, k⟩) n c } := by
  simp only [State.view, State.table, State.history, View.mk.injEq, true_and]
  funext k
  by_cases hk : k = n
  · subst hk
    simp only [Function.update_self]
  · have other : (⟨key, k⟩ : CallId) ≠ ⟨key, n⟩ := fun e => hk (CallId.mk.inj e).2
    simp only [Function.update_of_ne other, Function.update_of_ne hk]

theorem view_calls_other {sh : Shared} {calls : CallId → Option Call} {key : ChannelKey}
    {id : CallId} {c : Option Call} (h : id.key ≠ key) :
    State.view { shared := sh, calls := Function.update calls id c } key =
      State.view { shared := sh, calls := calls } key := by
  simp only [State.view, State.table, State.history, View.mk.injEq, true_and]
  funext k
  have other : (⟨key, k⟩ : CallId) ≠ id := fun e => h (e ▸ rfl)
  rw [Function.update_of_ne other]

theorem seen_put (s : State) (e : Entry) (key : ChannelKey) :
    Seen key (s.view key) (.put e) ((s.perform (.put e)).view key) := by
  by_cases hk : e.channel = key
  · cases hs : s.table.load key with
    | none =>
      have put : s.table.insertIfAbsent e =
          (none, s.table.insert e.channel { version := 0, entry := e }) := by
        simp only [VersionedTable.insertIfAbsent, hk, show s.table.get? key = none from hs]
      have stored : (s.view key).stored = none := hs
      simp only [State.perform, put, view_note_self (d := .put e none) key hk, hk,
        VersionedTable.load, SortedMap.get?_insert_self]
      exact .inserted e hk stored
    | some w =>
      have put : s.table.insertIfAbsent e = (some w.entry, s.table) := by
        simp only [VersionedTable.insertIfAbsent, hk, show s.table.get? key = some w from hs]
      have stored : (s.view key).stored = some w := hs
      simp only [State.perform, put, view_note_self (d := .put e (some w.entry)) key hk]
      exact .present e w hk stored
  · have kept : (s.table.insertIfAbsent e).2.load key = s.table.load key := by
      simp only [VersionedTable.insertIfAbsent]
      split
      · rfl
      · exact SortedMap.get?_insert_of_ne (Ne.symm hk)
    simp only [State.perform, view_note_other (d := .put e (s.table.insertIfAbsent e).1) key hk kept]
    exact .elsewhere _ hk

theorem seen_get (s : State) (k key : ChannelKey) :
    Seen key (s.view key) (.get k) ((s.perform (.get k)).view key) := by
  by_cases hk : k = key
  · subst hk
    have seen := view_note_self (s := s) (t := s.table)
      (d := .got k ((s.table.load k).map Versioned.entry)) k rfl
    exact seen ▸ .got
  · have seen := view_note_other (s := s) (t := s.table)
      (d := .got k ((s.table.load k).map Versioned.entry)) key hk rfl
    exact seen ▸ .elsewhere _ hk

theorem seen_remove (s : State) (k key : ChannelKey) :
    Seen key (s.view key) (.remove k) ((s.perform (.remove k)).view key) := by
  by_cases hk : k = key
  · subst hk
    have seen := view_note_self (s := s) (t := s.table.erase k)
      (d := .removed k ((s.table.load k).map Versioned.entry)) k rfl
    have gone : VersionedTable.load (s.table.erase k) k = none := SortedMap.get?_erase_self
    rw [gone] at seen
    exact seen ▸ .removed
  · have kept : VersionedTable.load (s.table.erase k) key = s.table.load key :=
      SortedMap.get?_erase_of_ne (Ne.symm hk)
    have seen := view_note_other (s := s) (t := s.table.erase k)
      (d := .removed k ((s.table.load k).map Versioned.entry)) key hk kept
    exact seen ▸ .elsewhere _ hk

theorem seen_call (s : State) (id : CallId) (m : Mutation) (limit : Nat) (key : ChannelKey) :
    Seen key (s.view key) (.call id m limit) ((s.perform (.call id m limit)).view key) := by
  cases hc : s.calls id with
  | some c =>
    simp only [State.perform, hc]
    by_cases hk : id.key = key
    · subst hk
      exact .taken id.number m limit c hc
    · exact .elsewhere _ hk
  | none =>
    simp only [State.perform, hc]
    by_cases hk : id.key = key
    · subst hk
      rw [view_calls_self (n := id.number)]
      exact .began id.number m limit hc
    · rw [view_calls_other hk]
      exact .elsewhere _ hk

/-- A step of a call is not seen from another key. -/
theorem step_unseen (id : CallId) (m : Mutation) (u : Update) (hu : u.key = id.key)
    (p : Update.Phase) (s : State) {key : ChannelKey} (hk : id.key ≠ key) :
    State.view { s with shared := (Update.step (access id m) u p s.shared).2 } key =
      s.view key := by
  cases p with
  | loading a =>
    rw [step_loading]
    exact view_note_other (d := .loaded id (s.shared.table.load u.key)) key hk rfl
  | swapping a version next =>
    by_cases h : Expected s.shared.table u.key version
    · rw [step_landed _ _ _ _ _ _ _ h]
      refine view_note_other (d := .swapped id m version next true) key hk ?_
      exact SortedMap.get?_insert_of_ne (hu ▸ Ne.symm hk)
    · rw [step_refused _ _ _ _ _ _ _ h]
      exact view_note_other (d := .swapped id m version next false) key hk rfl
  | finished r => rfl

theorem seen_turn_self (s : State) (key : ChannelKey) (n : Nat) (c : Call)
    (hc : s.calls ⟨key, n⟩ = some c) :
    Seen key (s.view key) (.turn ⟨key, n⟩) ((s.perform (.turn ⟨key, n⟩)).view key) := by
  have known : (s.view key).calls n = some c := hc
  simp only [State.perform, hc]
  rw [view_calls_self]
  cases hp : c.phase with
  | loading a =>
    rw [step_loading]
    have noted := view_note_self (s := s) (t := s.table)
      (d := .loaded ⟨key, n⟩ (s.table.load key)) key rfl
    exact congrArg (fun v => View.mk v.stored v.deeds _) noted ▸ .loaded n c a known hp
  | swapping a version next =>
    by_cases h : Expected s.shared.table key version
    · rw [step_landed ⟨key, n⟩ _ (c.update ⟨key, n⟩) _ _ _ _ h]
      obtain ⟨w, hw, rfl⟩ := Option.map_eq_some_iff.mp h
      have noted := view_note_self (s := s)
        (t := s.table.insert key { version := w.version + 1, entry := next })
        (d := .swapped ⟨key, n⟩ c.mutation w.version next true) key rfl
      rw [VersionedTable.load, SortedMap.get?_insert_self] at noted
      exact congrArg (fun v => View.mk v.stored v.deeds _) noted ▸ .landed n c a w next known hp hw
    · rw [step_refused ⟨key, n⟩ _ (c.update ⟨key, n⟩) _ _ _ _ h]
      have noted := view_note_self (s := s) (t := s.table)
        (d := .swapped ⟨key, n⟩ c.mutation version next false) key rfl
      exact congrArg (fun v => View.mk v.stored v.deeds _) noted ▸
        .refused n c a version next known hp h
  | finished r =>
    rw [Update.step_finished]
    -- The call is put back as it was.
    have same : Function.update (fun k => s.calls ⟨key, k⟩) n (some { c with phase := .finished r }) =
        fun k => s.calls ⟨key, k⟩ := by
      rw [← hp]
      exact Function.update_eq_self_iff.mpr hc.symm
    rw [same]
    exact .settled n c r known hp

/-- **Every action is seen as `Seen` says.** -/
theorem seen (s : State) (a : Action) (key : ChannelKey) :
    Seen key (s.view key) a ((s.perform a).view key) := by
  cases a with
  | put e => exact seen_put s e key
  | get k => exact seen_get s k key
  | remove k => exact seen_remove s k key
  | call id m limit => exact seen_call s id m limit key
  | turn id =>
    cases hc : s.calls id with
    | none =>
      simp only [State.perform, hc]
      by_cases hk : id.key = key
      · subst hk
        exact .unknown id.number hc
      · exact .elsewhere _ hk
    | some c =>
      by_cases hk : id.key = key
      · subst hk
        exact seen_turn_self s id.key id.number c hc
      · simp only [State.perform, hc]
        rw [view_calls_other hk]
        exact step_unseen id c.mutation (c.update id) rfl c.phase s hk ▸ .elsewhere _ hk

/-! ## A key's view as a function -/

/-- A turn of a call, as far as its key sees it. -/
def View.turn (key : ChannelKey) (v : View) (n : Nat) : View :=
  match v.calls n with
  | none => v
  | some c =>
    match c.phase with
    | .loading a =>
      (v.done v.stored (.loaded ⟨key, n⟩ v.stored)).setPhase n c
        ((c.update ⟨key, n⟩).afterLoad a (.ok v.stored))
    | .swapping a version next =>
      if v.stored.map Versioned.version = some version then
        (v.done (some { version := version + 1, entry := next })
          (.swapped ⟨key, n⟩ c.mutation version next true)).setPhase n c
            (.finished (.ok (some next)))
      else
        (v.done v.stored (.swapped ⟨key, n⟩ c.mutation version next false)).setPhase n c
          ((c.update ⟨key, n⟩).refused a)
    | .finished _ => v

/-- An action, as far as a key sees it. -/
def View.perform (key : ChannelKey) (v : View) (a : Action) : View :=
  if a.key = key then
    match a with
    | .put e =>
      match v.stored with
      | none => v.done (some { version := 0, entry := e }) (.put e none)
      | some w => v.done v.stored (.put e (some w.entry))
    | .get _ => v.done v.stored (.got key (v.stored.map Versioned.entry))
    | .remove _ => v.done none (.removed key (v.stored.map Versioned.entry))
    | .call id m limit =>
      match v.calls id.number with
      | none =>
        { v with calls := Function.update v.calls id.number (some { mutation := m, limit := limit }) }
      | some _ => v
    | .turn id => v.turn key id.number
  else v

theorem Seen.eq_perform {key : ChannelKey} {v v' : View} {a : Action} (h : Seen key v a v') :
    v' = v.perform key a := by
  cases h with
  | elsewhere _ hk => exact (if_neg hk).symm
  | inserted e hk hs => simp only [View.perform, Action.key, if_pos hk, hs]
  | present e w hk hs => simp only [View.perform, Action.key, if_pos hk, hs]
  | got => simp only [View.perform, Action.key, if_true]
  | removed => simp only [View.perform, Action.key, if_true]
  | began n m limit hc => simp only [View.perform, Action.key, if_true, hc]
  | taken n m limit c hc => simp only [View.perform, Action.key, if_true, hc]
  | unknown n hc => simp only [View.perform, Action.key, if_true, View.turn, hc]
  | loaded n c a hc hp => simp only [View.perform, Action.key, if_true, View.turn, hc, hp]
  | landed n c a w next hc hp hs =>
    simp only [View.perform, Action.key, if_true, View.turn, hc, hp, hs, Option.map_some]
  | refused n c a version next hc hp hs =>
    simp only [View.perform, Action.key, if_true, View.turn, hc, hp, if_neg hs]
  | settled n c r hc hp => simp only [View.perform, Action.key, if_true, View.turn, hc, hp]

/-- **What becomes of a key depends on the key alone.** -/
theorem view_perform (s : State) (a : Action) (key : ChannelKey) :
    (s.perform a).view key = (s.view key).perform key a := (seen s a key).eq_perform

theorem view_eq_of_seen {s : State} {a : Action} {key : ChannelKey} {v : View}
    (h : Seen key (s.view key) a v) : (s.perform a).view key = v :=
  (view_perform s a key).trans h.eq_perform.symm

/-- An invariant of what a key sees, kept by every action that a schedule contains. -/
theorem after_induction {key : ChannelKey} {P : View → Prop} (allowed : Action → Prop)
    (step : ∀ v a v', P v → allowed a → Seen key v a v' → P v') {s : State} (start : P (s.view key))
    {schedule : List Action} (all : ∀ a ∈ schedule, allowed a) :
    P ((s.after schedule).view key) := by
  induction schedule generalizing s with
  | nil => exact start
  | cons a rest ih =>
    rw [after_cons]
    exact ih (step _ a _ start (all a List.mem_cons_self) (seen s a key))
      (fun b hb => all b (List.mem_cons_of_mem a hb))

end ChannelRouting.Overlap
