import ChannelRouting.Loop.Run
import ChannelRouting.Proofs.Store.Agreement
import ChannelRouting.Router
import Mathlib.Data.List.Perm.Basic
import Mathlib.Data.List.Nodup

/-!
# Handles and their registry

Any number of handles are opened, used, closed and dropped, on one store and with one registry.
Contexts that are copies of each other share both, so it makes no difference through which of
them a handle was opened. A handle is known by its place among those that were opened; its
identity is what the registry knows it by, and no two openings use the same one.

The store may fail any call, before it carries it out or after (`Fault`), and others may use it
at any time. `handles_in_step` is what holds after every sequence of such actions
(`InStep`): the registry knows exactly the handles that are neither closed nor dropped, and
the next action does what it should, whichever it is.

`Step` says once what an action can do. The invariant (`Tracks`) is proved by cases on it.
-/

namespace ChannelRouting.Handles

/-- How a store fails a call. -/
inductive Fault where
  /-- It does not carry it out. -/
  | refused (e : StoreError)
  /-- It carries it out, and the answer is lost. -/
  | lost (e : StoreError)

/-- An operation of a store that meets a fault, or none. -/
def asked (fault : Option Fault) (op : Store.Operation) :
    StateM Store (Except StoreError (Option Entry)) := fun s =>
  match fault with
  | none => s.perform op
  | some (.refused e) => (.error e, s)
  | some (.lost e) => (.error e, (s.perform op).2)

/-- A store as a handle sees it whose next call meets a fault, or none. -/
def access (fault : Option Fault) : Store.Access Store where
  get key := asked fault (.get key)
  putIfAbsent e := asked fault (.putIfAbsent e)
  execute key m := asked fault (.execute key m)
  remove key := asked fault (.remove key)
  emit _ := pure ()

theorem whenOpen_open {α : Type} {r : Router} (h : r.closed = false) (fault : Option Fault)
    (call : StateM Store (Except RouterError α)) : r.whenOpen (access fault) call = call := by
  simp only [Router.whenOpen, h]
  rfl

theorem whenOpen_closed {α : Type} {r : Router} (h : r.closed = true) (fault : Option Fault)
    (call : StateM Store (Except RouterError α)) (s : Store) :
    r.whenOpen (access fault) call s = (.error (.closed r.channel), s) := by
  simp only [Router.whenOpen, h]
  rfl

/-- What can be asked of a handle. -/
inductive Request where
  | addRoute (target : ChannelKey) (keys : List String)
  | removeRoute (target : ChannelKey) (keys : List String)
  | setStrategy (strategy : Option Strategy)
  | readEntry
  | readRoutes
  | readStrategy
  /-- A loop with an identity and settings. -/
  | makeLoop (id : Nat) (config : LoopConfig)

/-- What a handle answers. -/
inductive Reply where
  | entry (e : Option Entry)
  | routes (routes : List Route)
  | strategy (strategy : Option Strategy)
  | loop (l : Loop)

namespace Request

/-- Asks a handle. -/
def ask {σ : Type} (p : Store.Access σ) (r : Router) : Request → StateM σ (Except RouterError Reply)
  | addRoute target keys => do return (← r.addRoute p target keys).map .entry
  | removeRoute target keys => do return (← r.removeRoute p target keys).map .entry
  | setStrategy strategy => do return (← r.setStrategy p strategy).map .entry
  | readEntry => do return (← r.entry p).map .entry
  | readRoutes => do return (← r.routes p).map .routes
  | readStrategy => do return (← r.strategy p).map .strategy
  | makeLoop id config => do
    return (← r.loop p fun source => pure { id := id, source := source, config := config }).map .loop

/-- The operation of the store that a request comes down to; a loop needs none. -/
def operation? (key : ChannelKey) : Request → Option Store.Operation
  | addRoute target keys => some (.execute key (.addRoute target keys))
  | removeRoute target keys => some (.execute key (.removeRoute target keys))
  | setStrategy strategy => some (.execute key (.setStrategy strategy))
  | readEntry | readRoutes | readStrategy => some (.get key)
  | makeLoop .. => none

/-- The reply to a request for which the store has answered with some entry or none. -/
def reply (key : ChannelKey) (found : Option Entry) : Request → Reply
  | addRoute .. | removeRoute .. | setStrategy _ | readEntry => .entry found
  | readRoutes => .routes (found.elim [] Entry.routes)
  | readStrategy => .strategy (found.bind Entry.strategy)
  | makeLoop id config => .loop { id := id, source := key, config := config }

/-- **What an open handle makes of a request**: an operation of the store on the key of the handle,
and a reply from its answer. -/
def carriedOut (fault : Option Fault) (key : ChannelKey) (q : Request) :
    StateM Store (Except RouterError Reply) := fun s =>
  match q.operation? key with
  | none => (.ok (q.reply key none), s)
  | some op =>
    ((Router.answer (asked fault op s).1).map fun found => q.reply key found, (asked fault op s).2)

/-- What becomes of a store's answer on its way through a handle. -/
theorem map_map_answer {α : Type} (read : Option Entry → α) (wrap : α → Reply)
    (a : Except StoreError (Option Entry)) :
    ((Router.answer a).map read).map wrap = (Router.answer a).map fun found => wrap (read found) := by
  cases a <;> rfl

theorem ask_open {r : Router} (h : r.closed = false) (fault : Option Fault) (q : Request)
    (s : Store) : q.ask (access fault) r s = q.carriedOut fault r.channel s := by
  cases q with
  | addRoute target keys =>
    simp only [ask, Router.addRoute, Router.mutate, whenOpen_open h]
    rfl
  | removeRoute target keys =>
    simp only [ask, Router.removeRoute, Router.mutate, whenOpen_open h]
    rfl
  | setStrategy strategy =>
    simp only [ask, Router.setStrategy, Router.mutate, whenOpen_open h]
    rfl
  | readEntry =>
    simp only [ask, Router.entry, whenOpen_open h]
    rfl
  | readRoutes =>
    simp only [ask, Router.routes, Router.entry, whenOpen_open h]
    exact Prod.ext (map_map_answer (fun e => e.elim [] Entry.routes) .routes _) rfl
  | readStrategy =>
    simp only [ask, Router.strategy, Router.entry, whenOpen_open h]
    exact Prod.ext (map_map_answer (fun e => e.bind Entry.strategy) .strategy _) rfl
  | makeLoop id config =>
    simp only [ask, Router.loop, whenOpen_open h]
    rfl

theorem ask_closed {r : Router} (h : r.closed = true) (fault : Option Fault) (q : Request)
    (s : Store) : q.ask (access fault) r s = (.error (.closed r.channel), s) := by
  cases q with
  | addRoute target keys =>
    simp only [ask, Router.addRoute, Router.mutate, bind, StateT.bind, whenOpen_closed h]
    rfl
  | removeRoute target keys =>
    simp only [ask, Router.removeRoute, Router.mutate, bind, StateT.bind, whenOpen_closed h]
    rfl
  | setStrategy strategy =>
    simp only [ask, Router.setStrategy, Router.mutate, bind, StateT.bind, whenOpen_closed h]
    rfl
  | readEntry =>
    simp only [ask, Router.entry, bind, StateT.bind, whenOpen_closed h]
    rfl
  | readRoutes =>
    simp only [ask, Router.routes, Router.entry, bind, StateT.bind, whenOpen_closed h]
    rfl
  | readStrategy =>
    simp only [ask, Router.strategy, Router.entry, bind, StateT.bind, whenOpen_closed h]
    rfl
  | makeLoop id config =>
    simp only [ask, Router.loop, bind, StateT.bind, whenOpen_closed h]
    rfl

end Request

/-! ## Actions -/

/-- What happens next; a handle is meant by its place. -/
inductive Action where
  /-- A handle is opened, under an identity. -/
  | create (id : Nat) (channel : ChannelKey) (fault : Option Fault)
  | close (i : Nat)
  | drop (i : Nat)
  | request (i : Nat) (q : Request) (fault : Option Fault)
  /-- Somebody else uses the store. -/
  | others (op : Store.Operation)

/-- The identity that a handle is opened under. -/
def Action.id? : Action → Option Nat
  | create id _ _ => some id
  | close _ | drop _ | request .. | others _ => none

/-- What an action answers. -/
inductive Answer where
  | created (result : Except RouterError Router)
  | replied (result : Except RouterError Reply)
  /-- There is nothing to answer, or no such handle. -/
  | nothing

/-- The store, the registry, and the handles that were opened, in order; a handle that was dropped
leaves its place empty. -/
structure State where
  store : Store
  registry : Registry := {}
  handles : List (Option Router) := []

namespace State

/-- The handle at a place, unless it was dropped. -/
def handle? (s : State) (i : Nat) : Option Router := (s.handles[i]?).join

/-- The handles that were not dropped. -/
def held (s : State) : List Router := s.handles.filterMap id

/-- **The handles that are neither closed nor dropped.** -/
def live (s : State) : List Router := s.held.filter fun r => !r.closed

/-- The answer to an action, and the state after it. -/
def perform (s : State) : Action → Answer × State
  | .create id channel fault =>
    match Router.open_ (access fault) s.registry id channel s.store with
    | (.ok (r, registry), store) =>
      (.created (.ok r),
        { store := store, registry := registry, handles := s.handles ++ [some r] })
    | (.error e, store) => (.created (.error e), { s with store := store })
  | .close i =>
    match s.handle? i with
    | none => (.nothing, s)
    | some r =>
      let ((r', registry), store) := r.close (access none) s.registry s.store
      (.nothing, { store := store, registry := registry, handles := s.handles.set i (some r') })
  | .drop i =>
    match s.handle? i with
    | none => (.nothing, s)
    | some r =>
      (.nothing, { s with registry := Router.drop s.registry r, handles := s.handles.set i none })
  | .request i q fault =>
    match s.handle? i with
    | none => (.nothing, s)
    | some r =>
      let (reply, store) := q.ask (access fault) r s.store
      (.replied reply, { s with store := store })
  | .others op => (.nothing, { s with store := (s.store.perform op).2 })

/-- The state after actions in order. -/
def after (s : State) (schedule : List Action) : State :=
  schedule.foldl (fun s a => (s.perform a).2) s

end State

/-- What becomes of a store, which may have entries already, without a handle on it. -/
def run (store : Store) (schedule : List Action) : State := State.after { store := store } schedule

/-! ## What an action can do -/

/-- **What an action can do**, by what it asks for and what it meets. -/
inductive Step (s : State) : Action → Answer → State → Prop
  | created (id : Nat) (channel : ChannelKey) (fault : Option Fault) (found : Option Entry) :
    (asked fault (.putIfAbsent (.empty channel)) s.store).1 = .ok found →
    Step s (.create id channel fault) (.created (.ok { id := id, channel := channel }))
      { store := (asked fault (.putIfAbsent (.empty channel)) s.store).2
        registry := s.registry.attach { id := id, channel := channel }
        handles := s.handles ++ [some { id := id, channel := channel }] }
  | uncreated (id : Nat) (channel : ChannelKey) (fault : Option Fault) (e : StoreError) :
    (asked fault (.putIfAbsent (.empty channel)) s.store).1 = .error e →
    Step s (.create id channel fault) (.created (.error (.store e)))
      { s with store := (asked fault (.putIfAbsent (.empty channel)) s.store).2 }
  | closed (i : Nat) (r : Router) : s.handle? i = some r → r.closed = false →
    Step s (.close i) .nothing
      { s with registry := s.registry.detach r, handles := s.handles.set i (some { r with closed := true }) }
  | reclosed (i : Nat) (r : Router) : s.handle? i = some r → r.closed = true →
    Step s (.close i) .nothing s
  | dropped (i : Nat) (r : Router) : s.handle? i = some r →
    Step s (.drop i) .nothing
      { s with registry := s.registry.detach r, handles := s.handles.set i none }
  | carried (i : Nat) (r : Router) (q : Request) (fault : Option Fault) :
    s.handle? i = some r → r.closed = false →
    Step s (.request i q fault) (.replied (q.carriedOut fault r.channel s.store).1)
      { s with store := (q.carriedOut fault r.channel s.store).2 }
  | refused (i : Nat) (r : Router) (q : Request) (fault : Option Fault) :
    s.handle? i = some r → r.closed = true →
    Step s (.request i q fault) (.replied (.error (.closed r.channel))) s
  | nobody (i : Nat) (a : Action) : s.handle? i = none →
    (a = .close i ∨ a = .drop i ∨ ∃ q fault, a = .request i q fault) → Step s a .nothing s
  | others (op : Store.Operation) :
    Step s (.others op) .nothing { s with store := (s.store.perform op).2 }

/-- Opening a handle, by what the store answers. -/
theorem open_eq (g : Registry) (id : Nat) (channel : ChannelKey) (fault : Option Fault) (s : Store) :
    Router.open_ (access fault) g id channel s =
      match asked fault (.putIfAbsent (.empty channel)) s with
      | (.ok _, s') =>
        (.ok ({ id := id, channel := channel }, g.attach { id := id, channel := channel }), s')
      | (.error e, s') => (.error (.store e), s') := by
  simp only [Router.open_, bind, StateT.bind, access]
  cases asked fault (.putIfAbsent (.empty channel)) s with
  | mk a s' =>
    cases a with
    | error e => rfl
    | ok found => rfl

/-- The places before and behind a handle, whatever its own place holds. -/
theorem exists_places {s : State} {i : Nat} {r : Router} (h : s.handle? i = some r) :
    ∃ before rest, s.handles = before ++ some r :: rest ∧
      ∀ x, s.handles.set i x = before ++ x :: rest := by
  have place : s.handles[i]? = some (some r) := Option.join_eq_some_iff.mp h
  obtain ⟨inside, found⟩ := List.getElem?_eq_some_iff.mp place
  refine ⟨s.handles.take i, s.handles.drop (i + 1), ?_, fun x => ?_⟩
  · rw [← found, List.getElem_cons_drop, List.take_append_drop]
  · exact List.set_eq_take_append_cons_drop.trans (if_pos inside)

/-- A handle that is put back at its place is as it was. -/
theorem set_same {s : State} {i : Nat} {r : Router} (h : s.handle? i = some r) :
    s.handles.set i (some r) = s.handles := by
  obtain ⟨before, rest, here, put⟩ := exists_places h
  exact (put (some r)).trans here.symm

/-- Closing a handle; a second time it stays as it is. -/
theorem close_eq (g : Registry) (r : Router) (s : Store) :
    r.close (access none) g s =
      (if r.closed then (r, g) else ({ r with closed := true }, g.detach r), s) := by
  cases hc : r.closed <;> simp only [Router.close, hc] <;> rfl

theorem step_create (s : State) (id : Nat) (channel : ChannelKey) (fault : Option Fault) :
    Step s (.create id channel fault) (s.perform (.create id channel fault)).1
      (s.perform (.create id channel fault)).2 := by
  simp only [State.perform, open_eq]
  cases h : asked fault (.putIfAbsent (.empty channel)) s.store with
  | mk a store =>
    have after : (asked fault (.putIfAbsent (.empty channel)) s.store).2 = store := by rw [h]
    cases a with
    | ok found => exact after ▸ .created id channel fault found (by rw [h])
    | error e => exact after ▸ .uncreated id channel fault e (by rw [h])

theorem step_close (s : State) (i : Nat) :
    Step s (.close i) (s.perform (.close i)).1 (s.perform (.close i)).2 := by
  cases h : s.handle? i with
  | none =>
    simp only [State.perform, h]
    exact .nobody i _ h (.inl rfl)
  | some r =>
    simp only [State.perform, h, close_eq]
    cases hc : r.closed with
    | false => exact .closed i r h hc
    | true =>
      simp only [if_true, set_same h]
      exact .reclosed i r h hc

/-- **Every action does what `Step` says.** -/
theorem step (s : State) (a : Action) : Step s a (s.perform a).1 (s.perform a).2 := by
  cases a with
  | create id channel fault => exact step_create s id channel fault
  | close i => exact step_close s i
  | drop i =>
    cases h : s.handle? i with
    | none =>
      simp only [State.perform, h]
      exact .nobody i _ h (.inr (.inl rfl))
    | some r =>
      simp only [State.perform, h]
      exact .dropped i r h
  | request i q fault =>
    cases h : s.handle? i with
    | none =>
      simp only [State.perform, h]
      exact .nobody i _ h (.inr (.inr ⟨q, fault, rfl⟩))
    | some r =>
      simp only [State.perform, h]
      cases hc : r.closed with
      | false =>
        rw [Request.ask_open hc]
        exact .carried i r q fault h hc
      | true =>
        rw [Request.ask_closed hc]
        exact .refused i r q fault h hc
  | others op => exact .others op

/-! ## The registry -/

/-- What the registry lists of a handle. -/
def listing (r : Router) : Nat × ChannelKey := (r.id, r.channel)

theorem mem_attach {g : Registry} {r : Router} {p : Nat × ChannelKey} :
    p ∈ (g.attach r).live.toList ↔ p = listing r ∨ (p.1 ≠ r.id ∧ p ∈ g.live.toList) := by
  rw [SortedMap.mem_toList, SortedMap.mem_toList, Registry.attach]
  by_cases own : p.1 = r.id
  · rw [own, SortedMap.get?_insert_self]
    constructor
    · intro h
      exact .inl (Prod.ext own (Option.some.inj h).symm)
    · rintro (rfl | ⟨other, -⟩)
      · rfl
      · exact absurd rfl other
  · rw [SortedMap.get?_insert_of_ne own]
    constructor
    · intro h
      exact .inr ⟨own, h⟩
    · rintro (rfl | ⟨-, h⟩)
      · exact absurd rfl own
      · exact h

theorem mem_detach {g : Registry} {r : Router} {p : Nat × ChannelKey} :
    p ∈ (g.detach r).live.toList ↔ p.1 ≠ r.id ∧ p ∈ g.live.toList := by
  rw [SortedMap.mem_toList, SortedMap.mem_toList, Registry.detach]
  by_cases own : p.1 = r.id
  · rw [own, SortedMap.get?_erase_self]
    constructor
    · intro h
      cases h
    · rintro ⟨other, -⟩
      exact absurd rfl other
  · rw [SortedMap.get?_erase_of_ne own]
    exact ⟨fun h => ⟨own, h⟩, And.right⟩

/-- **The invariant of every run**: the handles have identities of their own, out of those that
were used, and the registry lists exactly the ones that are neither closed nor dropped. -/
structure Tracks (used : List Nat) (s : State) : Prop where
  distinct : (s.held.map Router.id).Nodup
  known : s.held.map Router.id ⊆ used
  registered : ∀ p, p ∈ s.registry.live.toList ↔ p ∈ s.live.map listing

theorem mem_live_map {s : State} {p : Nat × ChannelKey} :
    p ∈ s.live.map listing ↔ ∃ r ∈ s.held, r.closed = false ∧ listing r = p := by
  simp only [State.live, List.mem_map, List.mem_filter, Bool.not_eq_true', and_assoc]

theorem held_append {s : State} {before rest : List (Option Router)} {x : Option Router}
    (h : s.handles = before ++ x :: rest) :
    s.held = before.filterMap id ++ (x.toList ++ rest.filterMap id) := by
  rw [State.held, h, List.filterMap_append]
  cases x <;> rfl

/-- A handle of another place has another identity. -/
theorem id_ne {a b : List Router} {r x : Router}
    (distinct : ((a ++ ([r] ++ b)).map Router.id).Nodup) (hx : x ∈ a ++ b) : x.id ≠ r.id := by
  have apart : ((r :: (a ++ b)).map Router.id).Nodup :=
    (List.perm_middle.map Router.id).nodup_iff.mp distinct
  intro same
  exact (List.nodup_cons.mp apart).1 (same ▸ List.mem_map_of_mem hx)

/-- A handle leaves the registry, whether or not it was still there, and what is left in its place
is no live handle. -/
theorem Tracks.leave {used : List Nat} {s : State} (h : Tracks used s) {i : Nat} {r : Router}
    (here : s.handle? i = some r) {left : Option Router}
    (gone : ∀ x ∈ left, x.closed = true ∧ x.id = r.id) :
    Tracks used { s with registry := s.registry.detach r, handles := s.handles.set i left } := by
  obtain ⟨before, rest, placed, put⟩ := exists_places here
  have held := held_append placed
  have held' := held_append (s := { s with registry := s.registry.detach r, handles := s.handles.set i left })
    (put left)
  generalize before.filterMap id = a at held held'
  generalize rest.filterMap id = b at held held'
  have fewer : ((a ++ (left.toList ++ b)).map Router.id).Sublist (s.held.map Router.id) := by
    have own : (left.toList.map Router.id).Sublist [r.id] := by
      cases left with
      | none => exact List.nil_sublist _
      | some x => exact (gone x rfl).2 ▸ List.Sublist.refl _
    rw [held]
    simp only [List.map_append]
    exact (List.Sublist.refl _).append (own.append (List.Sublist.refl _))
  refine ⟨?_, ?_, fun p => ?_⟩
  · rw [held']
    exact h.distinct.sublist fewer
  · rw [held']
    exact fun n hn => h.known (fewer.subset hn)
  · rw [mem_detach, h.registered, mem_live_map, mem_live_map, held, held']
    have distinct := held ▸ h.distinct
    constructor
    · rintro ⟨other, x, hx, hc, rfl⟩
      refine ⟨x, ?_, hc, rfl⟩
      rcases List.mem_append.mp hx with hx | hx
      · exact List.mem_append_left _ hx
      · rcases List.mem_cons.mp hx with rfl | hx
        · exact absurd rfl other
        · exact List.mem_append_right _ (List.mem_append_right _ hx)
    · rintro ⟨x, hx, hc, rfl⟩
      have elsewhere : x ∈ a ++ b := by
        rcases List.mem_append.mp hx with hx | hx
        · exact List.mem_append_left _ hx
        · rcases List.mem_append.mp hx with hx | hx
          · rw [(gone x (Option.mem_toList.mp hx)).1] at hc
            cases hc
          · exact List.mem_append_right _ hx
      refine ⟨id_ne distinct elsewhere, x, ?_, hc, rfl⟩
      rcases List.mem_append.mp elsewhere with hx | hx
      · exact List.mem_append_left _ hx
      · exact List.mem_append_right _ (List.mem_cons_of_mem _ hx)

/-- A new handle joins the registry under an identity that was not used. -/
theorem Tracks.join {used : List Nat} {s : State} (h : Tracks used s) {r : Router}
    (opened : r.closed = false) (fresh : r.id ∉ used) (store : Store) :
    Tracks (used ++ [r.id])
      { store := store, registry := s.registry.attach r, handles := s.handles ++ [some r] } := by
  have held : State.held
      { store := store, registry := s.registry.attach r, handles := s.handles ++ [some r] } =
        s.held ++ [r] := List.filterMap_append
  refine ⟨?_, ?_, fun p => ?_⟩
  · rw [held, List.map_append, List.nodup_append]
    refine ⟨h.distinct, List.nodup_singleton _, fun n hn m hm same => ?_⟩
    rw [List.mem_singleton.mp hm] at same
    exact fresh (same ▸ h.known hn)
  · rw [held, List.map_append]
    exact List.append_subset.mpr ⟨fun n hn => List.mem_append_left _ (h.known hn),
      List.subset_append_right ..⟩
  · rw [mem_attach, h.registered, mem_live_map, mem_live_map, held]
    constructor
    · rintro (rfl | ⟨-, x, hx, hc, rfl⟩)
      · exact ⟨r, List.mem_append_right _ (List.mem_singleton_self r), opened, rfl⟩
      · exact ⟨x, List.mem_append_left _ hx, hc, rfl⟩
    · rintro ⟨x, hx, hc, rfl⟩
      rcases List.mem_append.mp hx with hx | hx
      · refine .inr ⟨fun same => fresh ?_, x, hx, hc, rfl⟩
        exact same ▸ h.known (List.mem_map_of_mem hx)
      · rw [List.mem_singleton.mp hx]
        exact .inl rfl

theorem tracks_step {used : List Nat} {s s' : State} {a : Action} {answer : Answer}
    (h : Tracks used s) (fresh : ∀ id ∈ a.id?, id ∉ used) (step : Step s a answer s') :
    Tracks (used ++ a.id?.toList) s' := by
  cases step with
  | created id channel fault found hf => exact h.join (r := { id := id, channel := channel }) rfl (fresh id rfl) _
  | uncreated id channel fault e he =>
    exact ⟨h.distinct, fun n hn => List.mem_append_left _ (h.known hn), h.registered⟩
  | closed i r hi hc =>
    rw [Action.id?, Option.toList_none, List.append_nil]
    refine h.leave hi fun x hx => ?_
    cases hx
    exact ⟨rfl, rfl⟩
  | reclosed i r hi hc => exact (List.append_nil used).symm ▸ h
  | dropped i r hi =>
    rw [Action.id?, Option.toList_none, List.append_nil]
    exact h.leave hi fun x hx => by cases hx
  | carried i r q fault hi hc =>
    rw [Action.id?, Option.toList_none, List.append_nil]
    exact ⟨h.distinct, h.known, h.registered⟩
  | refused i r q fault hi hc => exact (List.append_nil used).symm ▸ h
  | nobody i a hi ha => exact ⟨h.distinct, fun n hn => List.mem_append_left _ (h.known hn), h.registered⟩
  | others op =>
    rw [Action.id?, Option.toList_none, List.append_nil]
    exact ⟨h.distinct, h.known, h.registered⟩

theorem tracks_after {used : List Nat} {s : State} (h : Tracks used s) (schedule : List Action)
    (distinct : (used ++ schedule.filterMap Action.id?).Nodup) :
    Tracks (used ++ schedule.filterMap Action.id?) (s.after schedule) := by
  induction schedule generalizing used s with
  | nil => exact (List.append_nil used).symm ▸ h
  | cons a rest ih =>
    have here : (a :: rest).filterMap Action.id? = a.id?.toList ++ rest.filterMap Action.id? := by
      rw [List.filterMap_cons]
      cases a.id? <;> rfl
    rw [here, ← List.append_assoc] at distinct ⊢
    refine ih (tracks_step h (fun id hid used => ?_) (step s a)) distinct
    have apart := (List.nodup_append.mp (distinct.sublist (List.sublist_append_left ..))).2.2
    exact apart id used id (Option.mem_toList.mpr hid) rfl

/-- The registry counts the live handles. -/
theorem Tracks.count {used : List Nat} {s : State} (h : Tracks used s) :
    s.registry.count = s.live.length := by
  have once : s.registry.live.toList.Nodup :=
    s.registry.live.ascending.imp fun before same => KeyOrder.ne_of_lt before (congrArg Prod.fst same)
  have ids : ((s.live.map listing).map Prod.fst).Nodup := by
    rw [List.map_map]
    exact h.distinct.sublist (List.filter_sublist.map Router.id)
  have perm : s.registry.live.toList.Perm (s.live.map listing) :=
    (List.perm_ext_iff_of_nodup once ids.of_map).mpr h.registered
  exact perm.length_eq.trans (List.length_map _)

/-- It gives the channels that have one. -/
theorem Tracks.keys {used : List Nat} {s : State} (h : Tracks used s) (key : ChannelKey) :
    key ∈ s.registry.keys ↔ ∃ r ∈ s.live, r.channel = key := by
  rw [Registry.keys, SortedSet.mem_ofList, SortedMap.values, List.mem_map]
  constructor
  · rintro ⟨p, hp, rfl⟩
    obtain ⟨r, hr, rfl⟩ := List.mem_map.mp ((h.registered p).mp hp)
    exact ⟨r, hr, rfl⟩
  · rintro ⟨r, hr, rfl⟩
    exact ⟨listing r, (h.registered _).mpr (List.mem_map_of_mem hr), rfl⟩

/-! ## What holds of every run -/

/-- **Opening a handle**, by what the store answers to putting an empty entry. -/
structure Opening (s : State) (id : Nat) (channel : ChannelKey) (put : Except StoreError (Option Entry))
    (answer : Answer) (s' : State) : Prop where
  /-- If the store fails so does the opening, and it leaves nothing behind. -/
  failed : ∀ e, put = .error e →
    answer = .created (.error (.store e)) ∧ s'.registry = s.registry ∧ s'.handles = s.handles
  /-- Otherwise there is one handle more, and the channel has the entry it had or an empty one. -/
  succeeded : ∀ found, put = .ok found →
    answer = .created (.ok { id := id, channel := channel }) ∧
      s'.handles = s.handles ++ [some { id := id, channel := channel }] ∧
      s'.store.entry? channel = some ((s.store.entry? channel).getD (.empty channel))
  /-- An entry that there was is still there. -/
  kept : ∀ key e, s.store.entry? key = some e → s'.store.entry? key = some e

/-- **A handle is left behind**: nothing else is different, neither the store, nor another handle,
nor what the registry says of one. -/
structure Leaving (s : State) (i : Nat) (r : Router) (left : Option Router) (s' : State) : Prop where
  store : s'.store = s.store
  own : s'.handle? i = left
  others : ∀ j, j ≠ i → s'.handle? j = s.handle? j
  registered : ∀ id, id ≠ r.id → s'.registry.live.get? id = s.registry.live.get? id

/-- **Handles and their registry are in step**, and stay so whatever is done next. -/
structure InStep (s : State) : Prop where
  /-- The registry counts the handles that are neither closed nor dropped. -/
  count : s.registry.count = s.live.length
  /-- It lists their channels in ascending order, each once. -/
  ascending : s.registry.keys.toList.Pairwise (· < ·)
  keys : ∀ key, key ∈ s.registry.keys.toList ↔ ∃ r ∈ s.live, r.channel = key
  create : ∀ id channel fault,
    Opening s id channel (asked fault (.putIfAbsent (.empty channel)) s.store).1
      (s.perform (.create id channel fault)).1 (s.perform (.create id channel fault)).2
  /-- An open handle carries out a request on the store, whatever became of the others. -/
  carried : ∀ i r q fault, s.handle? i = some r → r.closed = false →
    s.perform (.request i q fault) = (.replied (q.carriedOut fault r.channel s.store).1,
      { s with store := (q.carriedOut fault r.channel s.store).2 })
  /-- A closed one refuses it, and nothing changes. -/
  refused : ∀ i r q fault, s.handle? i = some r → r.closed = true →
    s.perform (.request i q fault) = (.replied (.error (.closed r.channel)), s)
  close : ∀ i r, s.handle? i = some r →
    Leaving s i r (some { r with closed := true }) (s.perform (.close i)).2
  /-- Closing a second time changes nothing. -/
  reclose : ∀ i r, s.handle? i = some r → r.closed = true → s.perform (.close i) = (.nothing, s)
  drop : ∀ i r, s.handle? i = some r → Leaving s i r none (s.perform (.drop i)).2

/-- The entries after an empty one was put, by a store that carries it out. -/
theorem entry?_put (s : Store) (channel : ChannelKey) :
    Store.entry? (s.perform (.putIfAbsent (.empty channel))).2 =
      Function.update s.entry? channel (some ((s.entry? channel).getD (.empty channel))) := by
  rw [(s.performs _).effect, Store.Operation.on]
  refine congrArg (Function.update s.entry? channel) ?_
  show (s.entry? channel).or _ = _
  cases s.entry? channel <;> rfl

/-- Putting an entry keeps those that there are, whether or not the store fails. -/
theorem entry?_asked_put (fault : Option Fault) {channel key : ChannelKey} {s : Store} {e : Entry}
    (h : s.entry? key = some e) :
    Store.entry? (asked fault (.putIfAbsent (.empty channel)) s).2 key = some e := by
  have carriedOut : Store.entry? (s.perform (.putIfAbsent (.empty channel))).2 key = some e := by
    rw [entry?_put]
    by_cases own : key = channel
    · subst own
      rw [Function.update_self, h, Option.getD_some]
    · rw [Function.update_of_ne own, h]
  match fault with
  | none => exact carriedOut
  | some (.refused _) => exact h
  | some (.lost _) => exact carriedOut

/-- A store that answers has carried the operation out. -/
theorem asked_ok {fault : Option Fault} {op : Store.Operation} {s : Store} {found : Option Entry}
    (h : (asked fault op s).1 = .ok found) : asked fault op s = s.perform op := by
  match fault with
  | none => rfl
  | some (.refused _) => cases h
  | some (.lost _) => cases h

theorem opening (s : State) (id : Nat) (channel : ChannelKey) (fault : Option Fault) :
    Opening s id channel (asked fault (.putIfAbsent (.empty channel)) s.store).1
      (s.perform (.create id channel fault)).1 (s.perform (.create id channel fault)).2 := by
  have stepped := step_create s id channel fault
  generalize (s.perform (.create id channel fault)).1 = answer at stepped ⊢
  generalize (s.perform (.create id channel fault)).2 = s' at stepped ⊢
  cases stepped with
  | created _ _ _ found hf =>
    refine ⟨fun e he => ?_, fun _ _ => ⟨rfl, rfl, ?_⟩, fun key e => entry?_asked_put fault⟩
    · cases hf.symm.trans he
    · rw [asked_ok hf, entry?_put, Function.update_self]
  | uncreated _ _ _ e he =>
    refine ⟨fun e' he' => ?_, fun found hf => ?_, fun key e => entry?_asked_put fault⟩
    · cases he.symm.trans he'
      exact ⟨rfl, rfl, rfl⟩
    · cases he.symm.trans hf
  | nobody _ _ _ ha => rcases ha with ha | ha | ⟨_, _, ha⟩ <;> cases ha

/-- A place is filled anew, and the registry says the same of the other handles. -/
theorem leaving {s : State} {i : Nat} {r : Router} (here : s.handle? i = some r)
    (left : Option Router) {g : Registry}
    (same : ∀ id, id ≠ r.id → g.live.get? id = s.registry.live.get? id) :
    Leaving s i r left { s with registry := g, handles := s.handles.set i left } := by
  have inside : i < s.handles.length :=
    (List.getElem?_eq_some_iff.mp (Option.join_eq_some_iff.mp here)).1
  refine ⟨rfl, ?_, fun j other => ?_, same⟩
  · simp only [State.handle?, List.getElem?_set_self inside, Option.join_some]
  · simp only [State.handle?, List.getElem?_set_ne (Ne.symm other)]

theorem Tracks.inStep {used : List Nat} {s : State} (h : Tracks used s) : InStep s where
  count := h.count
  ascending := s.registry.keys.ascending
  keys := h.keys
  create := opening s
  carried i r q fault here hc := by
    simp only [State.perform, here, Request.ask_open hc]
    rfl
  refused i r q fault here hc := by
    simp only [State.perform, here, Request.ask_closed hc]
  close i r here := by
    simp only [State.perform, here, close_eq]
    cases hc : r.closed with
    | false => exact leaving here _ fun id other => SortedMap.get?_erase_of_ne other
    | true =>
      have still : r = { r with closed := true } := by rw [← hc]
      exact still ▸ leaving here (some r) fun _ _ => rfl
  reclose i r here hc := by
    simp only [State.perform, here, close_eq, hc, if_true, set_same here]
  drop i r here := by
    simp only [State.perform, here]
    exact leaving here none fun id other => SortedMap.get?_erase_of_ne other

/-- **Handles and their registry stay in step.** Whatever is done with any number of handles on one
store, with whichever calls the store fails, as long as every handle has an identity of its own. -/
theorem handles_in_step (store : Store) {schedule : List Action}
    (distinct : (schedule.filterMap Action.id?).Nodup) : InStep (run store schedule) := by
  have start : Tracks [] { store := store } :=
    ⟨List.nodup_nil, List.Subset.refl [], fun p => Iff.rfl⟩
  exact (tracks_after start schedule distinct).inStep

/-- Handles on two channels: two openings fail, one handle is closed twice and then dropped, and the
others go on. -/
def shift : List Action :=
  [.create 1 ⟨"a"⟩ none, .create 2 ⟨"a"⟩ none, .create 3 ⟨"b"⟩ (some (.refused (.unavailable "down"))),
    .create 4 ⟨"b"⟩ (some (.lost (.unavailable "slow"))), .create 5 ⟨"b"⟩ none,
    .request 0 (.addRoute ⟨"t"⟩ ["k"]) none, .close 0, .close 0, .request 0 .readRoutes none, .drop 0,
    .create 6 ⟨"a"⟩ none, .request 1 .readRoutes none]

theorem handles_in_step_shift :
    (shift.filterMap Action.id?).Nodup ∧
      (run (.ofKind .inMemory) shift).registry.count = 3 ∧
      (run (.ofKind .inMemory) shift).registry.keys.toList = [⟨"a"⟩, ⟨"b"⟩] ∧
      InStep (run (.ofKind .inMemory) shift) :=
  ⟨by decide, by decide +kernel, by decide +kernel, handles_in_step _ (by decide)⟩

end ChannelRouting.Handles
