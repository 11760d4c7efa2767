import ChannelRouting.Proofs.History
import ChannelRouting.Proofs.Loop.Node
import Mathlib.Logic.Function.Basic

/-!
# Many loops on one node

Any number of loops run on one node, on the same source or on different ones, while
others enqueue messages, close channels and change the store. A schedule is a list of
actions, and each of them is one step: a loop opens a channel, receives, reads the entry
or sends to one target, or somebody else does one thing. Nothing restricts the order.

`State.journal` says what happened, in order. `fleet_is_orderly` is what holds of it
after every schedule:

* What a channel accepted is what was received from it, whoever received it, followed by
  what it holds, all in the order of acceptance. So no message is lost or received twice.
* What a loop reads is what the store is after all changes of it so far.
* What a loop has done is course after course and a beginning of another. So it tries
  exactly the targets of the entry it has read, whatever becomes of the store meanwhile.
* What a loop delivers to a target is in the order of its receipts, each at most once.
-/

namespace ChannelRouting.Fleet

open Loop (Deed Course Trail Begun deliveries receipts)

/-- A change of the store. An update of an optimistic store is one of these when it swaps; its
loads change nothing. -/
inductive Change where
  | put (e : Entry)
  | execute (key : ChannelKey) (m : Mutation)
  | remove (key : ChannelKey)
  | swap (key : ChannelKey) (version : Nat) (e : Entry)

/-- The store after a change; there are no swaps on a table without versions. -/
def Change.apply : Change → Store → Store
  | put e, s => (s.putIfAbsent e).2
  | execute key m, s => (s.execute key m).2
  | remove key, s => (s.remove key).2
  | swap key version e, .optimistic limit t => .optimistic limit (t.swap key version e).2
  | swap .., .memory t => .memory t

/-- What happens next. -/
inductive Action where
  /-- A loop is made and begins its first run; an identity in use is refused. -/
  | launch (i : Nat) (source : ChannelKey) (config : LoopConfig) (thread : String)
  /-- A loop whose run has ended begins another. -/
  | rerun (i : Nat) (thread : String)
  /-- A loop takes its next step. A call that cannot settle waits for the others if the turn is
  patient, and otherwise as long as its policy says. -/
  | turn (i : Nat) (patient : Bool)
  | enqueue (key : ChannelKey) (m : Message)
  | close (key : ChannelKey)
  | change (c : Change)

/-- What has happened. -/
inductive Happening where
  | did (i : Nat) (d : Deed)
  /-- A message was enqueued and not refused. -/
  | enqueued (key : ChannelKey) (m : Message)
  | changed (c : Change)

/-- The node with the runs of its loops, and what has happened. -/
structure State where
  node : Node
  runs : Nat → Option Run := fun _ => none
  journal : List Happening := []

/-- A node as a loop sees it at its turn. -/
def access (patient : Bool) : Loop.Access Node :=
  if patient then Node.loopAccess else Node.soleLoopAccess

namespace State

def turn (s : State) (i : Nat) (patient : Bool) (r : Run) : State :=
  let stepped := Run.step (access patient).traced r (s.node, [])
  { node := stepped.2.1
    runs := Function.update s.runs i (some (stepped.1.getD r))
    journal := s.journal ++ stepped.2.2.map (.did i) }

def enqueue (s : State) (key : ChannelKey) (m : Message) : State :=
  let (answer, t) := s.node.transport.enqueue key m
  { s with
    node := { s.node with transport := t }
    journal := s.journal ++ (Transport.givenBy m (some answer)).map (.enqueued key) }

def perform (s : State) : Action → State
  | .launch i source config thread =>
    match s.runs i with
    | some _ => s
    | none =>
      let loop : Loop := { id := i, source := source, config := config }
      { s with runs := Function.update s.runs i (some (loop.start thread)) }
  | .rerun i thread =>
    match s.runs i with
    | none => s
    | some r =>
      if r.outcome?.isSome then
        { s with runs := Function.update s.runs i (some (r.loop.start thread)) }
      else s
  | .turn i patient =>
    match s.runs i with
    | none => s
    | some r => s.turn i patient r
  | .enqueue key m => s.enqueue key m
  | .close key => { s with node := { s.node with transport := s.node.transport.close key } }
  | .change c =>
    { s with
      node := { s.node with store := c.apply s.node.store }
      journal := s.journal ++ [.changed c] }

end State

/-- What becomes of a node without loops. -/
def run (start : Node) (schedule : List Action) : State := schedule.foldl State.perform { node := start }

/-! ## Reading the journal -/

def Happening.deed? (i : Nat) : Happening → Option Deed
  | did j d => if j = i then some d else none
  | enqueued .. | changed _ => none

def Happening.accepted? (key : ChannelKey) : Happening → Option Message
  | did _ d => d.delivery? key
  | enqueued k m => if k = key then some m else none
  | changed _ => none

def Happening.receipt? (key : ChannelKey) : Happening → Option (Nat × Message)
  | did i d => (d.receipt? key).map fun m => (i, m)
  | enqueued .. | changed _ => none

def Happening.change? : Happening → Option Change
  | did .. | enqueued .. => none
  | changed c => some c

/-- All that a loop has done. -/
def deedsOf (i : Nat) (journal : List Happening) : List Deed := journal.filterMap (Happening.deed? i)

/-- The messages that a channel accepted, from loops and from others. -/
def accepted (key : ChannelKey) (journal : List Happening) : List Message :=
  journal.filterMap (Happening.accepted? key)

/-- The messages that were received from a channel, and by which loop. -/
def taken (key : ChannelKey) (journal : List Happening) : List (Nat × Message) :=
  journal.filterMap (Happening.receipt? key)

def storeAfter (store : Store) (journal : List Happening) : Store :=
  (journal.filterMap Happening.change?).foldl (fun s c => c.apply s) store

/-- **Order among many loops.** -/
structure Orderly (start : Node) (s : State) : Prop where
  /-- What a channel held at the start and has accepted since is what was received from it, by
  whichever loop, and then what it holds now. -/
  received : ∀ key, start.transport.messages key ++ accepted key s.journal =
    (taken key s.journal).map Prod.snd ++ s.node.transport.messages key
  /-- What a loop reads is what the store has after all changes so far. -/
  read : Throughout (fun before h => ∀ i key a, h = .did i (.read key a) →
    a = .ok (Store.entry? (storeAfter start.store before) key)) s.journal
  /-- A loop has gone course after course, and begun another. -/
  courses : ∀ i r, s.runs i = some r → ∃ (courses : List Course) (current : List Deed),
    deedsOf i s.journal = courses.flatMap (Course.deeds r.loop.source) ++ current ∧
      Begun r.loop.source current
  /-- What a target accepted from a loop was in the order of the loop's receipts, and each
  message that the loop received at most once. -/
  delivered : ∀ i r, s.runs i = some r → ∀ t,
    (deliveries t (deedsOf i s.journal)).Sublist (accepted t s.journal) ∧
      (deliveries t (deedsOf i s.journal)).Sublist (receipts r.loop.source (deedsOf i s.journal))

/-! ## What is added to the journal -/

theorem deedsOf_append (i : Nat) (j₁ j₂ : List Happening) :
    deedsOf i (j₁ ++ j₂) = deedsOf i j₁ ++ deedsOf i j₂ := List.filterMap_append

theorem accepted_append (key : ChannelKey) (j₁ j₂ : List Happening) :
    accepted key (j₁ ++ j₂) = accepted key j₁ ++ accepted key j₂ := List.filterMap_append

theorem taken_append (key : ChannelKey) (j₁ j₂ : List Happening) :
    taken key (j₁ ++ j₂) = taken key j₁ ++ taken key j₂ := List.filterMap_append

theorem storeAfter_append (store : Store) (j₁ j₂ : List Happening) :
    storeAfter store (j₁ ++ j₂) = storeAfter (storeAfter store j₁) j₂ := by
  simp only [storeAfter, List.filterMap_append, List.foldl_append]

section Did

variable (i : Nat) (deeds : List Deed)

theorem deedsOf_did_self : deedsOf i (deeds.map (.did i)) = deeds := by
  induction deeds with
  | nil => rfl
  | cons d rest ih =>
    have own : Happening.deed? i (.did i d) = some d := if_pos rfl
    rw [List.map_cons, deedsOf, List.filterMap_cons_some own]
    exact congrArg (d :: ·) ih

theorem deedsOf_did_of_ne {j : Nat} (h : i ≠ j) : deedsOf j (deeds.map (.did i)) = [] := by
  induction deeds with
  | nil => rfl
  | cons d rest ih =>
    have foreign : Happening.deed? j (.did i d) = none := if_neg h
    rw [List.map_cons, deedsOf, List.filterMap_cons_none foreign]
    exact ih

theorem accepted_did (key : ChannelKey) :
    accepted key (deeds.map (.did i)) = deliveries key deeds := by
  rw [accepted, List.filterMap_map]
  rfl

theorem taken_did (key : ChannelKey) :
    (taken key (deeds.map (.did i))).map Prod.snd = receipts key deeds := by
  rw [taken, List.filterMap_map, List.map_filterMap]
  refine congrFun (congrArg List.filterMap (funext fun d => ?_)) deeds
  show ((d.receipt? key).map _).map Prod.snd = d.receipt? key
  rw [Option.map_map]
  exact Option.map_id'

theorem storeAfter_did (store : Store) : storeAfter store (deeds.map (.did i)) = store := by
  have none_changed : (deeds.map (Happening.did i)).filterMap Happening.change? = [] := by
    rw [List.filterMap_map]
    exact List.filterMap_eq_nil_iff.mpr fun _ _ => rfl
  rw [storeAfter, none_changed]
  rfl

end Did

section Enqueued

variable (key : ChannelKey)

theorem accepted_enqueued (m : Message) (answer : Option (Except TransportError Unit))
    (k : ChannelKey) :
    accepted k ((Transport.givenBy m answer).map (.enqueued key)) =
      Transport.only key (Transport.givenBy m answer) k := by
  rcases answer with _ | e | _
  · exact (congrFun (Transport.only_nil key) k).symm
  · exact (congrFun (Transport.only_nil key) k).symm
  · by_cases hk : k = key
    · subst hk
      have own : Happening.accepted? k (.enqueued k m) = some m := if_pos rfl
      simp only [Transport.only, if_true, Transport.givenBy, List.map_cons, List.map_nil]
      exact List.filterMap_cons_some own
    · have foreign : Happening.accepted? k (.enqueued key m) = none := if_neg (Ne.symm hk)
      simp only [Transport.only, if_neg hk, Transport.givenBy, List.map_cons, List.map_nil]
      exact List.filterMap_cons_none foreign

theorem storeAfter_enqueued (ms : List Message) (store : Store) :
    storeAfter store (ms.map (.enqueued key)) = store := by
  have none_changed : (ms.map (Happening.enqueued key)).filterMap Happening.change? = [] := by
    rw [List.filterMap_map]
    exact List.filterMap_eq_nil_iff.mpr fun _ _ => rfl
  rw [storeAfter, none_changed]
  rfl

end Enqueued

/-! ## The invariant -/

/-- **The invariant of every schedule.** -/
structure Invariant (start : Node) (s : State) : Prop where
  received : ∀ key, start.transport.messages key ++ accepted key s.journal =
    (taken key s.journal).map Prod.snd ++ s.node.transport.messages key
  store : s.node.store = storeAfter start.store s.journal
  read : Throughout (fun before h => ∀ i key a, h = .did i (.read key a) →
    a = .ok (Store.entry? (storeAfter start.store before) key)) s.journal
  /-- A loop has gone course after course, and its run is on the trail of another. -/
  running : ∀ i r, s.runs i = some r → ∃ (l : Loop) (courses : List Course) (current : List Deed),
    deedsOf i s.journal = courses.flatMap (Course.deeds l.source) ++ current ∧ Trail l r current
  /-- A loop that was not made has done nothing. -/
  unmade : ∀ i, s.runs i = none → deedsOf i s.journal = []

theorem invariant_start (start : Node) : Invariant start { node := start } where
  received key := by
    rw [show accepted key [] = [] from rfl, List.append_nil]
    rfl
  store := rfl
  read := throughout_nil
  running _ _ h := nomatch h
  unmade _ _ := rfl

namespace Invariant

variable {start : Node} {s : State}

theorem launch (h : Invariant start s) {i : Nat} (free : s.runs i = none) (l : Loop)
    (thread : String) :
    Invariant start { s with runs := Function.update s.runs i (some (l.start thread)) } where
  received := h.received
  store := h.store
  read := h.read
  running j r hr := by
    by_cases hj : j = i
    · subst hj
      simp only [Function.update_self, Option.some.injEq] at hr
      subst hr
      exact ⟨l, [], [], h.unmade j free, Loop.trail_start l thread⟩
    · simp only [Function.update_of_ne hj] at hr
      exact h.running j r hr
  unmade j hj := by
    by_cases hi : j = i
    · subst hi
      simp only [Function.update_self, reduceCtorEq] at hj
    · simp only [Function.update_of_ne hi] at hj
      exact h.unmade j hj

/-- A run that has ended was a course, and the next one begins. -/
theorem rerun (h : Invariant start s) {i : Nat} {r : Run} (hr : s.runs i = some r)
    (over_ : r.outcome?.isSome = true) (thread : String) :
    Invariant start { s with runs := Function.update s.runs i (some (r.loop.start thread)) } where
  received := h.received
  store := h.store
  read := h.read
  running j r' hr' := by
    by_cases hj : j = i
    · subst hj
      simp only [Function.update_self, Option.some.injEq] at hr'
      subst hr'
      obtain ⟨l, courses, current, hd, trail⟩ := h.running j r hr
      obtain ⟨outcome, out⟩ := Option.isSome_iff_exists.mp over_
      obtain ⟨c, -, rfl, -⟩ := trail.ended out
      -- The loop goes on with the counters it has, but its source is still that of `l`.
      refine ⟨r.loop, courses ++ [c], [], ?_, Loop.trail_start r.loop thread⟩
      rw [trail.source, List.flatMap_append, List.flatMap_cons, List.flatMap_nil, List.append_nil,
        List.append_nil]
      exact hd
    · simp only [Function.update_of_ne hj] at hr'
      exact h.running j r' hr'
  unmade j hj := by
    by_cases hi : j = i
    · subst hi
      simp only [Function.update_self, reduceCtorEq] at hj
    · simp only [Function.update_of_ne hi] at hj
      exact h.unmade j hj

/-- **A step of a loop.** -/
theorem did (h : Invariant start s) {i : Nat} {r r' : Run} (hr : s.runs i = some r) {node : Node}
    {deeds : List Deed} (effect : s.node.Effect deeds node)
    (trail : ∀ l current, Trail l r current → Trail l r' (current ++ deeds)) :
    Invariant start
      { node := node, runs := Function.update s.runs i (some r'),
        journal := s.journal ++ deeds.map (.did i) } where
  received key := by
    have balance := effect.conserves key
    simp only [accepted_append, taken_append, List.map_append, accepted_did, taken_did]
    rw [← List.append_assoc, h.received key, List.append_assoc, List.append_assoc]
    exact congrArg ((taken key s.journal).map Prod.snd ++ ·) balance
  store := by
    rw [effect.store, h.store, storeAfter_append, storeAfter_did]
  read := by
    refine throughout_append h.read fun k x hk j key a hx => ?_
    subst hx
    rw [List.getElem?_map] at hk
    obtain ⟨d, hd, he⟩ := Option.map_eq_some_iff.mp hk
    obtain ⟨rfl, rfl⟩ := Happening.did.inj he
    rw [← List.map_take, storeAfter_append, storeAfter_did, ← h.store]
    exact effect.read key a (List.mem_of_getElem? hd)
  running j r'' hr'' := by
    by_cases hj : j = i
    · subst hj
      simp only [Function.update_self, Option.some.injEq] at hr''
      subst hr''
      obtain ⟨l, courses, current, hd, ht⟩ := h.running j r hr
      refine ⟨l, courses, current ++ deeds, ?_, trail l current ht⟩
      rw [deedsOf_append, deedsOf_did_self, hd, List.append_assoc]
    · simp only [Function.update_of_ne hj] at hr''
      rw [deedsOf_append, deedsOf_did_of_ne i deeds (Ne.symm hj), List.append_nil]
      exact h.running j r'' hr''
  unmade j hj := by
    by_cases hi : j = i
    · subst hi
      simp only [Function.update_self, reduceCtorEq] at hj
    · simp only [Function.update_of_ne hi] at hj
      rw [deedsOf_append, deedsOf_did_of_ne i deeds (Ne.symm hi), List.append_nil]
      exact h.unmade j hj

/-- **A step of somebody else.** -/
theorem others (h : Invariant start s) (node : Node) (new : List Happening)
    (foreign : ∀ x ∈ new, ∀ i d, x ≠ .did i d)
    (given : ∀ key, s.node.transport.messages key ++ accepted key new = node.transport.messages key)
    (store : node.store = storeAfter s.node.store new) :
    Invariant start { s with node := node, journal := s.journal ++ new } := by
  have no_deeds (i : Nat) : deedsOf i new = [] := by
    refine List.filterMap_eq_nil_iff.mpr fun x hx => ?_
    cases x with
    | did j d => exact absurd rfl (foreign _ hx j d)
    | enqueued k m => rfl
    | changed c => rfl
  have none_taken (key : ChannelKey) : taken key new = [] := by
    refine List.filterMap_eq_nil_iff.mpr fun x hx => ?_
    cases x with
    | did j d => exact absurd rfl (foreign _ hx j d)
    | enqueued k m => rfl
    | changed c => rfl
  refine ⟨fun key => ?_, ?_, ?_, fun i r hr => ?_, fun i hi => ?_⟩
  · simp only [accepted_append, taken_append, none_taken, List.append_nil]
    rw [← given key, ← List.append_assoc, h.received key, List.append_assoc]
  · rw [store, h.store, storeAfter_append]
  · refine throughout_append h.read fun k x hk j key a hx => ?_
    exact absurd hx (foreign x (List.mem_of_getElem? hk) j _)
  · simp only [deedsOf_append, no_deeds, List.append_nil]
    exact h.running i r hr
  · simp only [deedsOf_append, no_deeds, List.append_nil]
    exact h.unmade i hi

/-- A turn is a move of the loop's run, or leaves everything as it is. -/
theorem turn (h : Invariant start s) {i : Nat} {r : Run} (hr : s.runs i = some r) (patient : Bool) :
    Invariant start (s.turn i patient r) := by
  have law : (access patient).Law Node.Effect := by
    cases patient
    · exact Node.law_soleLoopAccess
    · exact Node.law_loopAccess
  obtain ⟨deeds, hx, effect, stepped⟩ := Run.step_logs law r s.node []
  simp only [State.turn, hx, List.nil_append]
  refine h.did hr effect fun l current trail => ?_
  cases ho : (Run.step (access patient) r s.node).1 with
  | none =>
    rw [ho] at stepped
    rw [show deeds = [] from stepped, List.append_nil]
    exact trail
  | some r' =>
    rw [ho] at stepped
    exact trail.move stepped

theorem enqueue (h : Invariant start s) (key : ChannelKey) (m : Message) :
    Invariant start (s.enqueue key m) := by
  have balance := Transport.conserves_enqueue s.node.transport key m
  unfold State.enqueue
  generalize s.node.transport.enqueue key m = offered at balance
  obtain ⟨answer, t⟩ := offered
  refine h.others { s.node with transport := t } _ ?_ (fun k => ?_) (storeAfter_enqueued key _ _).symm
  · intro x hx i d
    obtain ⟨m', -, rfl⟩ := List.mem_map.mp hx
    exact fun e => nomatch e
  · rw [accepted_enqueued]
    exact balance k

theorem close (h : Invariant start s) (key : ChannelKey) :
    Invariant start
      { s with node := { s.node with transport := s.node.transport.close key } } := by
  have same := h.others { s.node with transport := s.node.transport.close key } []
    (fun _ hx => nomatch hx) (fun k => Transport.conserves_close s.node.transport key k) rfl
  simp only [List.append_nil] at same
  exact same

theorem change (h : Invariant start s) (c : Change) :
    Invariant start
      { s with node := { s.node with store := c.apply s.node.store }
               journal := s.journal ++ [.changed c] } := by
  refine h.others { s.node with store := c.apply s.node.store } [.changed c] ?_
    (fun k => List.append_nil _) rfl
  intro x hx i d
  cases List.mem_singleton.mp hx
  exact fun e => nomatch e

/-- **Every action keeps the invariant.** -/
theorem perform (h : Invariant start s) (a : Action) : Invariant start (s.perform a) := by
  cases a with
  | launch i source config thread =>
    simp only [State.perform]
    split
    · exact h
    · next free => exact h.launch free _ thread
  | rerun i thread =>
    simp only [State.perform]
    split
    · exact h
    · next r hr =>
      split
      · next ended => exact h.rerun hr ended thread
      · exact h
  | turn i patient =>
    simp only [State.perform]
    split
    · exact h
    · next r hr => exact h.turn hr patient
  | enqueue key m => exact h.enqueue key m
  | close key => exact h.close key
  | change c => exact h.change c

end Invariant

theorem invariant_run (start : Node) (schedule : List Action) :
    Invariant start (run start schedule) := by
  suffices all : ∀ s, Invariant start s → Invariant start (schedule.foldl State.perform s) from
    all _ (invariant_start start)
  induction schedule with
  | nil => exact fun s h => h
  | cons a rest ih => exact fun s h => ih (s.perform a) (h.perform a)

/-- Courses one after another: what they deliver to a target is in the order of their receipts. -/
theorem courses_sublist (source t : ChannelKey) (courses : List Course) :
    (deliveries t (courses.flatMap (Course.deeds source))).Sublist
      (receipts source (courses.flatMap (Course.deeds source))) := by
  induction courses with
  | nil => exact List.Sublist.refl []
  | cons c rest ih =>
    rw [List.flatMap_cons, Loop.deliveries_append, Loop.receipts_append]
    exact (Loop.deliveries_sublist source t c).append ih

/-- What a target took from one loop is among what it took from all. -/
theorem deliveries_sublist_accepted (i : Nat) (t : ChannelKey) (journal : List Happening) :
    (deliveries t (deedsOf i journal)).Sublist (accepted t journal) := by
  rw [deliveries, deedsOf, List.filterMap_filterMap]
  refine filterMap_sublist (fun x => ?_) journal
  cases x with
  | did j d =>
    by_cases hj : j = i
    · exact .inr (by simp only [Happening.deed?, if_pos hj, Option.bind_some]; rfl)
    · exact .inl (by simp only [Happening.deed?, if_neg hj, Option.bind_none])
  | enqueued k m => exact .inl rfl
  | changed c => exact .inl rfl

/-- **Many loops and writers on one node neither lose, double nor misroute a message.** A
beginning of a schedule is a schedule, so this is so at every moment. -/
theorem fleet_is_orderly (start : Node) (schedule : List Action) :
    Orderly start (run start schedule) := by
  have h := invariant_run start schedule
  have going (i : Nat) (r : Run) (hr : (run start schedule).runs i = some r) :
      ∃ (courses : List Course) (current : List Deed),
        deedsOf i (run start schedule).journal =
          courses.flatMap (Course.deeds r.loop.source) ++ current ∧ Begun r.loop.source current := by
    obtain ⟨l, courses, current, hd, trail⟩ := h.running i r hr
    rw [trail.source]
    exact ⟨courses, current, hd, trail.begun⟩
  refine ⟨h.received, h.read, going, fun i r hr t => ?_⟩
  refine ⟨deliveries_sublist_accepted i t _, ?_⟩
  obtain ⟨courses, current, hd, begun⟩ := going i r hr
  rw [hd, Loop.deliveries_append, Loop.receipts_append]
  exact (courses_sublist r.loop.source t courses).append (begun.deliveries_sublist t)

end ChannelRouting.Fleet
