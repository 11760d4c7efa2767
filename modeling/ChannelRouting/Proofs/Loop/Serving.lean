import ChannelRouting.Proofs.Loop.Delivery
import ChannelRouting.Proofs.Transport.Answer
import Mathlib.Data.List.Perm.Subperm

/-!
# Loops among others that drain closed channels

A loop among others waits where a call cannot settle, so the answers it gets say how its
channels stand: a target refuses a message just if it is closed, and a source that has nothing
more for the loop is closed and empty, and remains so (`Node.Serves`).

On a node that nothing bounds, a loop whose source is closed never waits
(`Run.ended_of_step_none`). It also comes to its end: `Phase.toGo` bounds the steps it still has
to take, by the phase it is in and the messages that are left, and every step leaves less of them
(`Run.Move.toGo_lt`).

What such a loop has done at its end is fixed by its node up to the messages of its source
(`Loop.course_of_serves`).
-/

namespace ChannelRouting.Node

open Loop (Access Deed deliveries receipts)

/-- **What some deeds of a loop among others do to its node**, and how they were answered. -/
structure Serves (n : Node) (deeds : List Deed) (n' : Node) : Prop extends Effect n deeds n' where
  capacity : n'.transport.capacity = n.transport.capacity
  reach : n'.transport.reach = n.transport.reach
  closed : ∀ k, (n'.transport.queue k).closed = (n.transport.queue k).closed
  opened : ∀ k e, .opened k (.error e) ∉ deeds
  received : ∀ k e, .received k (.error e) ∉ deeds
  /-- A send is refused just by a closed channel. -/
  sent : ∀ k m a, .sent k m a ∈ deeds →
    a = if (n.transport.queue k).closed then .error (.closed k) else .ok ()
  /-- A channel that has no more messages for the loop is closed and will never have one. -/
  drained : ∀ k, .received k (.ok none) ∈ deeds →
    (n.transport.queue k).closed = true ∧ n'.transport.messages k = []

namespace Serves

variable {n n₁ n₂ n' : Node} {deeds d₁ d₂ : List Deed} {k : ChannelKey}

/-- Nothing is delivered to a closed channel. -/
theorem unsent (h : Serves n deeds n') (closed : (n.transport.queue k).closed = true) :
    deliveries k deeds = [] := by
  refine Loop.deliveries_eq_nil fun m hd => ?_
  have answer := h.sent k m _ hd
  rw [if_pos closed] at answer
  cases answer

/-- The messages of a closed channel only become fewer, by those that are received. -/
theorem messages_eq (h : Serves n deeds n') (closed : (n.transport.queue k).closed = true) :
    n.transport.messages k = receipts k deeds ++ n'.transport.messages k := by
  have balance := h.conserves k
  simp only [h.unsent closed, List.append_nil] at balance
  exact balance

theorem refl (n : Node) : Serves n [] n where
  toEffect := effect_refl n
  capacity := rfl
  reach := rfl
  closed _ := rfl
  opened _ _ := nofun
  received _ _ := nofun
  sent _ _ _ := nofun
  drained _ := nofun

theorem trans (h₁ : Serves n d₁ n₁) (h₂ : Serves n₁ d₂ n₂) : Serves n (d₁ ++ d₂) n₂ where
  toEffect := h₁.toEffect.trans h₂.toEffect
  capacity := h₂.capacity.trans h₁.capacity
  reach := h₂.reach.trans h₁.reach
  closed k := (h₂.closed k).trans (h₁.closed k)
  opened k e h := (List.mem_append.mp h).elim (h₁.opened k e) (h₂.opened k e)
  received k e h := (List.mem_append.mp h).elim (h₁.received k e) (h₂.received k e)
  sent k m a h := by
    rcases List.mem_append.mp h with h | h
    · exact h₁.sent k m a h
    · rw [← h₁.closed]
      exact h₂.sent k m a h
  drained k h := by
    rcases List.mem_append.mp h with h | h
    · obtain ⟨closed, empty⟩ := h₁.drained k h
      have later := h₂.messages_eq ((h₁.closed k).trans closed)
      rw [empty] at later
      exact ⟨closed, (List.append_eq_nil_iff.mp later.symm).2⟩
    · rw [← h₁.closed]
      exact h₂.drained k h

end Serves

/-- Changing the messages of a queue neither opens nor closes a channel. -/
theorem closed_withQueue (t : Transport) (key : ChannelKey) (ms : List Message) (k : ChannelKey) :
    ((t.withQueue key { t.queue key with messages := ms }).queue k).closed = (t.queue k).closed := by
  by_cases hk : k = key
  · subst hk
    rw [Transport.queue_withQueue_self]
  · rw [Transport.queue_withQueue_of_ne hk]

theorem serves_receive (n : Node) (key : ChannelKey) :
    Serves n (((n.transport.tryReceive key).1.map .ok).toList.map (.received key))
      { n with transport := (n.transport.tryReceive key).2 } := by
  have effect := effect_receive n key (Transport.conserves_tryReceive n.transport key)
  cases hq : n.transport.messages key with
  | cons m rest =>
    rw [Transport.tryReceive_cons hq] at effect ⊢
    refine ⟨effect, rfl, rfl, closed_withQueue n.transport key rest, fun k e h => ?_, fun k e h => ?_,
      fun k m a h => ?_, fun k h => ?_⟩ <;> cases List.mem_singleton.mp h
  | nil =>
    rw [Transport.tryReceive_nil hq] at effect ⊢
    cases closed : (n.transport.queue key).closed with
    | false =>
      rw [closed] at effect
      exact Serves.refl n
    | true =>
      rw [closed] at effect
      refine ⟨effect, rfl, rfl, fun _ => rfl, fun k e h => ?_, fun k e h => ?_, fun k m a h => ?_,
        fun k h => ?_⟩ <;> cases List.mem_singleton.mp h
      exact ⟨closed, hq⟩

theorem serves_send (n : Node) (key : ChannelKey) (m : Message) :
    Serves n ((n.transport.trySend key m).1.toList.map (.sent key m))
      { n with transport := (n.transport.trySend key m).2 } := by
  have effect := effect_send n key m (Transport.conserves_trySend n.transport key m)
  cases closed : (n.transport.queue key).closed with
  | true =>
    rw [Transport.trySend_closed closed] at effect ⊢
    refine ⟨effect, rfl, rfl, fun _ => rfl, fun k e h => ?_, fun k e h => ?_, fun k m a h => ?_,
      fun k h => ?_⟩ <;> cases List.mem_singleton.mp h
    rw [if_pos closed]
  | false =>
    cases room : n.transport.hasRoom (n.transport.messages key).length with
    | true =>
      rw [Transport.trySend_room closed room] at effect ⊢
      refine ⟨effect, rfl, rfl, closed_withQueue n.transport key _, fun k e h => ?_, fun k e h => ?_,
        fun k m a h => ?_, fun k h => ?_⟩ <;> cases List.mem_singleton.mp h
      rw [if_neg (Bool.eq_false_iff.mp closed)]
    | false =>
      rw [Transport.trySend_full closed room]
      exact Serves.refl n

/-- Deeds that leave the channels alone. -/
theorem serves_quiet {n n' : Node} {d : Deed} (effect : Effect n [d] n')
    (queues : ∀ k, n'.transport.queue k = n.transport.queue k)
    (capacity : n'.transport.capacity = n.transport.capacity)
    (reach : n'.transport.reach = n.transport.reach)
    (quiet : (∃ key, d = .opened key (.ok ())) ∨ (∃ key, d = .released key) ∨ ∃ key a, d = .read key a) :
    Serves n [d] n' := by
  refine ⟨effect, capacity, reach, fun k => by rw [queues], fun k e h => ?_, fun k e h => ?_,
    fun k m a h => ?_, fun k h => ?_⟩ <;>
  · cases List.mem_singleton.mp h
    rcases quiet with ⟨key, h⟩ | ⟨key, h⟩ | ⟨key, a, h⟩ <;> cases h

/-- **A loop among others serves its node.** -/
theorem law_serves : loopAccess.Law Serves where
  refl := Serves.refl
  trans := Serves.trans
  openChannel key n := serves_quiet (effect_open n key) (fun _ => rfl) rfl rfl (.inl ⟨key, rfl⟩)
  receive key _ n := serves_receive n key
  readEntry key n := serves_quiet (effect_read n key) (fun _ => rfl) rfl rfl (.inr (.inr ⟨key, _, rfl⟩))
  send key m _ n := serves_send n key m
  release key n := serves_quiet (effect_release n key) (fun _ => rfl) rfl rfl (.inr (.inl ⟨key, rfl⟩))
  emit _ n := Serves.refl n

end ChannelRouting.Node

/-! ## Draining a closed source -/

namespace ChannelRouting.Loop

/-- The steps that the messages of a source take at most, each of which is received, looked up and
tried on its targets. -/
def due (e : Entry) (ms : List Message) : Nat :=
  (ms.map fun m => 3 + 3 * (e.targets m).toList.length).sum

/-- **The steps that a run still has to take** at most, if `ms` are left on its source. -/
def Phase.toGo (e : Entry) (ms : List Message) : Phase → Nat
  | .ready => 3 + due e ms
  | .opening => 2 + due e ms
  | .receiving => 1 + due e ms
  | .reading m => 3 + 3 * (e.targets m).toList.length + due e ms
  | .forwarding _ targets => 2 + 3 * targets.length + due e ms
  | .reaching _ _ rest => 4 + 3 * rest.length + due e ms
  | .sending _ _ rest => 3 + 3 * rest.length + due e ms
  | .finished _ => 0

/-- A message has no more targets than the entry has routes. -/
theorem length_targets_le (e : Entry) (m : Message) : (e.targets m).toList.length ≤ e.routes.length := by
  have routed : (e.targets m).toList ⊆ e.routes.map Route.target := by
    intro t ht
    obtain ⟨r, hr, rfl⟩ := Entry.exists_route_of_mem_targets (SortedSet.mem_def.mpr ht)
    exact List.mem_map_of_mem hr
  have fewer := (List.subperm_of_subset (targets_nodup e m) routed).length_le
  rwa [List.length_map] at fewer

theorem due_cons (e : Entry) (m : Message) (ms : List Message) :
    due e (m :: ms) = 3 + 3 * (e.targets m).toList.length + due e ms := List.sum_cons

theorem due_le (e : Entry) (ms : List Message) : due e ms ≤ ms.length * (3 + 3 * e.routes.length) := by
  induction ms with
  | nil => exact Nat.zero_le _
  | cons m rest ih =>
    have fewer := length_targets_le e m
    have step : (rest.length + 1) * (3 + 3 * e.routes.length) =
        rest.length * (3 + 3 * e.routes.length) + (3 + 3 * e.routes.length) := Nat.succ_mul ..
    rw [due_cons, List.length_cons]
    omega

end ChannelRouting.Loop

namespace ChannelRouting.Run

open Loop (Deed)

/-- **A source that is ready to be drained**: it is closed, and it has an entry. -/
structure Drainable (n : Node) (source : ChannelKey) (e : Entry) : Prop where
  unbounded : n.transport.capacity = none
  closed : (n.transport.queue source).closed = true
  entry : n.store.entry? source = some e

variable {r r' : Run} {n n' : Node} {e : Entry} {deeds : List Deed}

theorem Drainable.serves {source : ChannelKey} (h : Drainable n source e)
    (serves : n.Serves deeds n') : Drainable n' source e :=
  ⟨serves.capacity.trans h.unbounded, (serves.closed source).trans h.closed,
    serves.store ▸ h.entry⟩

/-- A step leaves less to do, as long as only receiving takes messages from the source and every
entry that is found is the same. -/
theorem Move.toGo_lt_of_receipts (move : r.Move deeds r') {ms ms' : List Message}
    (left : ms = Loop.receipts r.loop.source deeds ++ ms')
    (found : ∀ e', .read r.loop.source (.ok (some e')) ∈ deeds → e' = e) :
    r'.phase.toGo e ms' < r.phase.toGo e ms := by
  cases move with
  | received m hp =>
    rw [Loop.receipts_received_cons] at left
    rw [hp, left]
    simp only [goOn, Loop.Phase.toGo, List.cons_append, Loop.due_cons]
    exact Nat.lt_add_of_pos_left Nat.one_pos
  | dropped m e' hp _ | resolved m e' hp _ =>
    cases found e' (List.mem_singleton_self _)
    rw [hp, show ms = ms' from left]
    simp only [goOn, into, Loop.Phase.toGo]
    omega
  | began hp | opened hp | unopened e hp | drained hp | receiveFailed e hp | absent m hp
  | unreadable m e hp | forwarded m hp | turned m t rest hp | reached m t rest hp
  | unreached m t rest e hp | delivered m t rest hp | refused m t rest e hp =>
    rw [hp, show ms = ms' from left]
    simp only [goOn, into, ended, noteFailure, Loop.Phase.toGo, List.length_cons, List.length_nil]
    omega

/-- **Every step brings a run nearer to its end.** -/
theorem Move.toGo_lt (move : r.Move deeds r') (serves : n.Serves deeds n')
    (h : Drainable n r.loop.source e) :
    r'.phase.toGo e (n'.transport.messages r.loop.source) <
      r.phase.toGo e (n.transport.messages r.loop.source) := by
  refine move.toGo_lt_of_receipts (serves.messages_eq h.closed) fun e' hd => ?_
  have answer := serves.read r.loop.source _ hd
  rw [h.entry] at answer
  exact Option.some.inj (Except.ok.inj answer)

/-- A closed channel always answers a receive, and a channel that nothing bounds a send. -/
theorem Drainable.answered {source : ChannelKey} (h : Drainable n source e) :
    (n.transport.tryReceive source).1.isSome = true ∧
      ∀ t m, (n.transport.trySend t m).1.isSome = true := by
  refine ⟨?_, fun t m => ?_⟩
  · cases hq : n.transport.messages source with
    | cons m rest =>
      rw [Transport.tryReceive_cons hq]
      rfl
    | nil =>
      rw [Transport.tryReceive_nil hq, h.closed]
      rfl
  · cases closed : (n.transport.queue t).closed with
    | true =>
      rw [Transport.trySend_closed closed]
      rfl
    | false =>
      have room : n.transport.hasRoom (n.transport.messages t).length = true := by
        unfold Transport.hasRoom
        rw [h.unbounded]
      rw [Transport.trySend_room closed room]
      rfl

theorem finished_of_outcome (h : r.outcome?.isSome = true) : ∃ outcome, r.phase = .finished outcome := by
  unfold outcome? at h
  cases hp : r.phase with
  | finished outcome => exact ⟨outcome, rfl⟩
  | _ =>
    rw [hp] at h
    cases h

/-- A run that has ended does nothing more. -/
theorem step_of_outcome {σ : Type} {p : Loop.Access σ} (ended : r.outcome?.isSome = true) (w : σ) :
    step p r w = (none, w) := by
  obtain ⟨outcome, hp⟩ := finished_of_outcome ended
  unfold step
  rw [hp]
  rfl

/-- **A run waits only for an answer.** -/
theorem outcome_of_step_none {σ : Type} {p : Loop.Access σ} {w : σ}
    (opens : ∀ k, (p.openChannel k w).1.isSome = true)
    (receives : (p.receive r.loop.source r.loop.config.receiveWait w).1.isSome = true)
    (sends : ∀ t m, (p.send t m r.loop.config.sendWait w).1.isSome = true)
    (stuck : (step p r w).1 = none) : r.outcome?.isSome = true := by
  have answered {α : Type} {x : Option α × σ} (h : x.1.isSome = true) :
      ∃ answer w', x = (some answer, w') := by
    obtain ⟨_ | answer, w'⟩ := x
    · cases h
    · exact ⟨answer, w', rfl⟩
  cases hp : r.phase with
  | finished outcome =>
    unfold outcome?
    rw [hp]
    rfl
  | opening =>
    obtain ⟨answer, w', opened⟩ := answered (opens r.loop.source)
    simp only [step, hp, bind, StateT.bind, opened] at stuck
    rcases answer with e | _ <;> cases stuck
  | receiving =>
    obtain ⟨answer, w', received⟩ := answered receives
    simp only [step, hp, bind, StateT.bind, received] at stuck
    cases stuck
  | reading m =>
    obtain ⟨answer, w', read⟩ : ∃ answer w', p.readEntry r.loop.source w = (answer, w') :=
      ⟨_, _, rfl⟩
    simp only [step, hp, bind, StateT.bind, read] at stuck
    rcases answer with e | _ | e <;> cases stuck
  | reaching m t rest =>
    obtain ⟨answer, w', opened⟩ := answered (opens t)
    simp only [step, hp, bind, StateT.bind, opened] at stuck
    rcases answer with e | _ <;> cases stuck
  | sending m t rest =>
    obtain ⟨answer, w', sent⟩ := answered (sends t m)
    simp only [step, hp, bind, StateT.bind, sent] at stuck
    cases stuck
  | forwarding m targets =>
    cases targets with
    | nil | cons t rest =>
      simp only [step, hp] at stuck
      cases stuck
  | ready =>
    simp only [step, hp] at stuck
    cases stuck

/-- **A run that drains a closed source never waits.** -/
theorem ended_of_step_none (h : Drainable n r.loop.source e)
    (stuck : (step Node.loopAccess r n).1 = none) : r.outcome?.isSome = true := by
  refine outcome_of_step_none (fun _ => rfl) ?_ h.answered.2 stuck
  exact Option.isSome_map.trans h.answered.1

end ChannelRouting.Run

/-! ## The course of a loop that has an entry -/

namespace ChannelRouting.Loop

/-- How an attempt at a target goes on a node: a closed channel refuses the message, and the others
take it. -/
def Attempt.on (n : Node) (t : ChannelKey) : Attempt :=
  if (n.transport.queue t).closed then .refused t (.closed t) else .delivered t

variable {n n' : Node} {all : List Deed}

theorem attempt_eq (serves : n.Serves all n') {a : Attempt} {m : Message} (within : a.deeds m ⊆ all) :
    a = .on n a.target := by
  unfold Attempt.on
  cases a with
  | unopened t e => exact absurd (within List.mem_cons_self) (serves.opened t e)
  | refused t e =>
    have answer := serves.sent t m (.error e) (within (List.mem_cons_of_mem _ List.mem_cons_self))
    rw [Attempt.target]
    split at answer
    · next closed =>
      rw [if_pos closed, Except.error.inj answer]
    · cases answer
  | delivered t =>
    have answer := serves.sent t m (.ok ()) (within (List.mem_cons_of_mem _ List.mem_cons_self))
    rw [Attempt.target]
    split at answer
    · cases answer
    · next opened => rw [if_neg opened]

/-- **A loop that has an entry drains its source**, and each of its attempts goes as the node has
it. -/
theorem course_of_serves (serves : n.Serves all n') {source : ChannelKey} {e : Entry}
    (entry : n.store.entry? source = some e) {c : Course} (within : c.deeds source ⊆ all) :
    ∃ rounds, c = .opened rounds .drained ∧
      ∀ r ∈ rounds, r.attempts = (e.targets r.message).toList.map (.on n) := by
  have read (a : Except StoreError (Option Entry)) (ha : .read source a ∈ c.deeds source) :
      a = .ok (some e) := entry ▸ serves.read source a (within ha)
  cases c with
  | unopened e => exact absurd (within List.mem_cons_self) (serves.opened source e)
  | opened rounds ending =>
    have last {d : Deed} (hd : d ∈ ending.deeds source) :
        d ∈ (Course.opened rounds ending).deeds source := List.mem_append_right _ hd
    cases ending with
    | failed e => exact absurd (within (last List.mem_cons_self)) (serves.received source e)
    | absent m => cases read _ (last (List.mem_cons_of_mem _ List.mem_cons_self))
    | unreadable m e => cases read _ (last (List.mem_cons_of_mem _ List.mem_cons_self))
    | drained =>
      refine ⟨rounds, rfl, fun r hr => ?_⟩
      have same : r.entry = e := by
        have answer := read _ (mem_deeds_of_round hr (List.mem_cons_of_mem _ List.mem_cons_self))
        exact Option.some.inj (Except.ok.inj answer)
      have tried (a : Attempt) (ha : a ∈ r.attempts) : a = .on n a.target := by
        refine attempt_eq serves (m := r.message) fun d hd => within (mem_deeds_of_round hr ?_)
        exact List.mem_cons_of_mem _ (List.mem_cons_of_mem _ (List.mem_flatMap.mpr ⟨a, ha, hd⟩))
      rw [← same, ← r.complete, List.map_map]
      exact (List.map_id r.attempts).symm.trans (List.map_congr_left tried)

end ChannelRouting.Loop
