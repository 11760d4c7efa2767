import ChannelRouting.Proofs.Loop.Pairs
import ChannelRouting.Proofs.Loop.Recovery
import ChannelRouting.Proofs.Loop.Replay
import ChannelRouting.Proofs.Transport.Call

/-!
# Calls of a loop that is stopped

However a call of a loop ends, it leaves the loop stopped, and the loop stays so: nothing that
happens afterwards brings its state back, not even another call while it runs
(`Driven.state_eq_stopped`). The state keeps no call from being made, though. A run never reads
it, so on a stopped loop it does what it would do on any other (`Driven.restated`): it opens the
source, and if there is a message it takes it, sends it on and counts it.

So at any moment a later run has done nothing (`Idle`) just if it has received no message
(`Trail.receptive`). Of a node that the loop has to itself this is known beforehand: a call does
nothing just if the source is empty (`Node.receipts_eq_nil_iff`).
-/

namespace ChannelRouting

/-- The loop in another state. -/
def Loop.inState (l : Loop) (s : LoopState) : Loop := { l with state := s }

namespace Run

open Loop (Access Pairs)

/-- A run of the loop in another state. -/
def inState (r : Run) (s : LoopState) : Run := { r with loop := r.loop.inState s }

variable {σ : Type} {p : Access σ} {s : LoopState}

/-- **The same run of a loop that was found in another state.** That makes a difference to what the
loop says of itself until the run has finished, and none afterwards. -/
inductive Restated (s : LoopState) (r : Run) : Run → Prop
  | going : r.outcome? = none → Restated s r (r.inState s)
  | same : Restated s r r

/-- The end of a run sets the state, whatever it was. -/
theorem finish_inState (r : Run) (outcome : Except LoopError LoopStats) :
    Pairs (finish p r outcome) (finish p (r.inState s) outcome) (Restated s) := by
  cases outcome with
  | ok stats => exact Pairs.same_bind fun _ => Pairs.pure .same
  | error e => exact Pairs.same_bind fun _ => Pairs.pure .same

theorem leave_inState (r : Run) (outcome : Except LoopError LoopStats) :
    Pairs (leave p r outcome) (leave p (r.inState s) outcome) (Restated s) :=
  Pairs.same_bind fun _ => finish_inState r outcome

theorem afterReceive_inState (r : Run) (answer : Except TransportError (Option Message)) :
    Pairs (afterReceive p r answer) (afterReceive p (r.inState s) answer) (Restated s) := by
  rcases answer with e | _ | m
  · exact Pairs.same_bind fun _ => leave_inState r _
  · exact leave_inState r _
  · exact Pairs.same_bind fun _ => Pairs.pure (.going rfl)

theorem afterRead_inState (r : Run) (m : Message) (e : Entry) :
    Pairs (afterRead p r m e) (afterRead p (r.inState s) m e) (Restated s) := by
  simp only [afterRead]
  by_cases unrouted : (e.targets m).isEmpty = true
  · rw [if_pos unrouted, if_pos unrouted]
    exact Pairs.same_bind fun _ => Pairs.pure (.going rfl)
  · rw [if_neg unrouted, if_neg unrouted]
    exact Pairs.pure (.going rfl)

theorem afterSend_inState (r : Run) (m : Message) (target : ChannelKey) (rest : List ChannelKey)
    (answer : Except TransportError Unit) :
    Pairs (afterSend p r m target rest answer) (afterSend p (r.inState s) m target rest answer)
      (Restated s) := by
  rcases answer with e | _
  · exact Pairs.same_bind fun _ => Pairs.same_bind fun _ => Pairs.pure (.going rfl)
  · exact Pairs.same_bind fun _ => Pairs.same_bind fun _ => Pairs.pure (.going rfl)

/-- **A step does the same in any state of the loop.** -/
theorem step_inState {r : Run} (going : r.outcome? = none) :
    Pairs (step p r) (step p (r.inState s)) (Option.Rel (Restated s)) := by
  obtain ⟨l, thread, phase⟩ := r
  cases phase with
  | ready => exact Pairs.same_bind fun _ => Pairs.pure (.some (.going rfl))
  | opening =>
    refine Pairs.same_bind fun answer => ?_
    rcases answer with _ | e | _
    · exact Pairs.pure .none
    · exact (finish_inState ⟨l, thread, .opening⟩ _).some
    · exact Pairs.pure (.some (.going rfl))
  | receiving =>
    refine Pairs.same_bind fun answer => ?_
    cases answer with
    | none => exact Pairs.pure .none
    | some answer => exact (afterReceive_inState ⟨l, thread, .receiving⟩ answer).some
  | reading m =>
    refine Pairs.same_bind fun answer => ?_
    rcases answer with e | _ | e
    · exact Pairs.same_bind fun _ => (leave_inState ⟨l, thread, .reading m⟩ _).some
    · exact Pairs.same_bind fun _ => (leave_inState ⟨l, thread, .reading m⟩ _).some
    · exact (afterRead_inState ⟨l, thread, .reading m⟩ m e).some
  | forwarding m targets =>
    cases targets with
    | nil => exact Pairs.pure (.some (.going rfl))
    | cons target rest =>
      exact Pairs.same_bind fun _ => Pairs.pure (.some (.going rfl))
  | reaching m target rest =>
    refine Pairs.same_bind fun answer => ?_
    rcases answer with _ | e | _
    · exact Pairs.pure .none
    · exact Pairs.same_bind fun _ => Pairs.pure (.some (.going rfl))
    · exact Pairs.pure (.some (.going rfl))
  | sending m target rest =>
    refine Pairs.same_bind fun answer => ?_
    cases answer with
    | none => exact Pairs.pure .none
    | some answer =>
      exact (afterSend_inState ⟨l, thread, .sending m target rest⟩ m target rest answer).some
  | finished report => cases going

theorem step_restated {r r' : Run} (h : Restated s r r') :
    Pairs (step p r) (step p r') (Option.Rel (Restated s)) := by
  cases h with
  | going going => exact step_inState going
  | same =>
    refine fun w => ⟨rfl, ?_⟩
    cases (step p r w).1 with
    | none => exact .none
    | some r' => exact .some .same

end Run

namespace Loop

variable {σ : Type} {p : Access σ} {others : σ → σ → Prop} {l l' : Loop} {thread : String}
  {w w' : σ} {r r' : Run} {deeds : List Deed} {calls : List (Returned σ)}

/-! ## A call does not read the state -/

/-- **A run goes as it would in any state of its loop.** -/
theorem Driven.restated {r₀ r₀' : Run} {s : LoopState} (run : Driven p others r₀ w r w' deeds)
    (start : r₀.Restated s r₀') : ∃ r', r.Restated s r' ∧ Driven p others r₀' w r' w' deeds := by
  induction run with
  | start => exact ⟨r₀', start, .start⟩
  | step _ hs ih =>
    obtain ⟨r', restated, run⟩ := ih
    obtain ⟨_, hs', answers⟩ := (Run.step_restated restated).answer hs
    cases answers with
    | some restated => exact ⟨_, restated, run.step hs'⟩
  | wait _ hs ih =>
    obtain ⟨r', restated, run⟩ := ih
    obtain ⟨_, hs', answers⟩ := (Run.step_restated restated).answer hs
    cases answers with
    | none => exact ⟨r', restated, run.wait hs'⟩
  | others _ ho ih =>
    obtain ⟨r', restated, run⟩ := ih
    exact ⟨r', restated, run.others ho⟩

/-- **A whole call goes as it would in any state of its loop.** -/
theorem Driven.inState (run : Driven p others (l.start thread) w r w' deeds)
    {outcome : Except LoopError LoopStats} (out : r.outcome? = some outcome) (s : LoopState) :
    Driven p others ((l.inState s).start thread) w r w' deeds := by
  obtain ⟨r', restated, run⟩ := run.restated (s := s) (.going rfl)
  cases restated with
  | going going =>
    rw [out] at going
    cases going
  | same => exact run

/-! ## A loop stays stopped -/

/-- A run keeps to its trail, whatever the others do. -/
theorem Driven.trail (run : Driven p others (l.start thread) w r w' deeds) : Trail l r deeds := by
  have lawless : p.Law fun _ _ _ => True := by
    constructor <;> intros <;> trivial
  exact (run.invariant lawless fun _ _ _ => trivial).1

/-- While it runs, a loop is in the state it was found in, and when it has finished it is stopped. -/
theorem Trail.state (h : Trail l r deeds) :
    r.outcome? = none ∧ r.loop.state = l.state ∨ r.loop.state = .stopped := by
  unfold Run.outcome?
  cases hp : r.phase with
  | ready | opening => exact .inl ⟨rfl, by rw [(h.stands hp).1]⟩
  | receiving | reading m =>
    obtain ⟨_, hl, _⟩ := h.stands hp
    exact .inl ⟨rfl, by rw [hl]; rfl⟩
  | forwarding m targets | reaching m t rest | sending m t rest =>
    obtain ⟨_, _, _, hl, _⟩ := h.stands hp
    exact .inl ⟨rfl, by rw [hl]; rfl⟩
  | finished outcome =>
    obtain ⟨_, hl, _⟩ := h.stands hp
    exact .inr (by rw [hl])

/-- **A stopped loop says so even while it runs again.** -/
theorem Driven.state_eq_stopped (run : Driven p others (l.start thread) w r w' deeds)
    (stopped : l.state = .stopped) : r.loop.state = .stopped := by
  rcases run.trail.state with ⟨-, kept⟩ | now
  · exact kept.trans stopped
  · exact now

/-- However a call ends, it leaves its loop stopped. -/
theorem Driven.stops (run : Driven p others (l.start thread) w r w' deeds)
    {outcome : Except LoopError LoopStats} (out : r.outcome? = some outcome) :
    r.loop.state = .stopped := by
  obtain ⟨_, left, -⟩ := run.trail.ended out
  rw [left]

theorem Calls.all_found_stopped (run : Calls p others l calls l') (stopped : l.state = .stopped) :
    (∀ call ∈ calls, call.found.state = .stopped) ∧ l'.state = .stopped := by
  induction run with
  | none l => exact ⟨List.forall_mem_nil _, stopped⟩
  | call driven out _ ih =>
    obtain ⟨later, last⟩ := ih (driven.stops out)
    exact ⟨List.forall_mem_cons.mpr ⟨stopped, later⟩, last⟩

/-- Every call but the first finds its loop stopped, and so does whoever looks at it after a call. -/
theorem Calls.found_stopped (run : Calls p others l calls l') :
    (∀ call ∈ calls.tail, call.found.state = .stopped) ∧
      (l.state = .stopped ∨ calls ≠ [] → l'.state = .stopped) := by
  cases run with
  | none l =>
    refine ⟨List.forall_mem_nil _, ?_⟩
    rintro (stopped | some)
    · exact stopped
    · exact absurd rfl some
  | call driven out rest =>
    obtain ⟨later, last⟩ := rest.all_found_stopped (driven.stops out)
    exact ⟨later, fun _ => last⟩

/-! ## Runs that do nothing -/

/-- **A run that has done nothing**: it took no message, opened its source at most and nothing else,
sent nothing, and counted nothing. -/
structure Idle (l now : Loop) (deeds : List Deed) : Prop where
  untaken : receipts l.source deeds = []
  opened : deeds = [] ∨ ∃ answer rest, deeds = .opened l.source answer :: rest ∧
    ∀ key a, .opened key a ∉ rest
  unsent : ∀ key m a, .sent key m a ∉ deeds
  stats : now.stats = l.stats

/-- **What a run does, by the messages that it receives**: it counts them all, and before the first
it does nothing. -/
structure Receptive (l now : Loop) (deeds : List Deed) : Prop where
  counted : now.stats.received = l.stats.received + (receipts l.source deeds).length
  idle_iff : Idle l now deeds ↔ receipts l.source deeds = []

/-- A whole run that took no message. -/
theorem idle_course {c : Course} (nothing : c.taken = []) {now : Loop}
    (stats : now.stats = l.stats.course c) : Idle l now (c.deeds l.source) := by
  have untaken : receipts l.source (c.deeds l.source) = [] := by rwa [receipts_course]
  rcases c with e | ⟨_ | ⟨round, rounds⟩, _ | e | m | ⟨m, e⟩⟩
  case unopened => exact ⟨untaken, .inr ⟨_, [], rfl, by simp⟩, by simp [Course.deeds], stats⟩
  case opened.nil.drained | opened.nil.failed =>
    refine ⟨untaken, .inr ⟨_, [_, _], rfl, by simp⟩, ?_, stats⟩
    simp [Course.deeds, Ending.deeds, trailed]
  all_goals cases nothing

/-- **A run that has received no message has done nothing.** -/
theorem Trail.idle (h : Trail l r deeds) (untaken : receipts l.source deeds = []) :
    Idle l r.loop deeds := by
  cases hp : r.phase with
  | ready | opening =>
    obtain ⟨hl, rfl⟩ := h.stands hp
    exact ⟨untaken, .inl rfl, by simp, by rw [hl]⟩
  | receiving =>
    obtain ⟨rounds, hl, rfl⟩ := h.stands hp
    rw [receipts_trailed, List.map_eq_nil_iff] at untaken
    subst untaken
    exact ⟨rfl, .inr ⟨_, [], rfl, by simp⟩, by simp [trailed], by rw [hl]; rfl⟩
  | reading m =>
    obtain ⟨rounds, -, rfl⟩ := h.stands hp
    rw [receipts_append, receipts_received_cons] at untaken
    cases (List.append_eq_nil_iff.mp untaken).2
  | forwarding m targets | reaching m t rest =>
    obtain ⟨rounds, e, attempts, -, rfl, -⟩ := h.stands hp
    rw [receipts_append, receipts_underway] at untaken
    cases (List.append_eq_nil_iff.mp untaken).2
  | sending m t rest =>
    obtain ⟨rounds, e, attempts, -, rfl, -⟩ := h.stands hp
    rw [List.append_assoc, receipts_append, receipts_append, receipts_underway] at untaken
    cases (List.append_eq_nil_iff.mp untaken).2
  | finished outcome =>
    obtain ⟨c, hl, rfl, -⟩ := h.stands hp
    rw [receipts_course] at untaken
    exact idle_course untaken (by rw [hl]; rfl)

/-- A run counts the messages that it receives. -/
theorem Trail.counted (h : Trail l r deeds) :
    r.loop.stats.received = l.stats.received + (receipts l.source deeds).length := by
  cases hp : r.phase with
  | ready | opening =>
    obtain ⟨hl, rfl⟩ := h.stands hp
    rw [hl]
    rfl
  | receiving =>
    obtain ⟨rounds, hl, rfl⟩ := h.stands hp
    rw [hl, receipts_trailed, List.length_map, withStats, LoopStats.rounds_eq]
  | reading m =>
    obtain ⟨rounds, hl, rfl⟩ := h.stands hp
    rw [hl, receipts_append, receipts_trailed, receipts_received_cons, List.length_append,
      List.length_map, withStats, LoopStats.rounds_eq]
    rfl
  | forwarding m targets | reaching m t rest =>
    obtain ⟨rounds, e, attempts, hl, rfl, -⟩ := h.stands hp
    rw [hl, receipts_append, receipts_trailed, receipts_underway, List.length_append,
      List.length_map, withStats, LoopStats.rounds_eq]
    rfl
  | sending m t rest =>
    obtain ⟨rounds, e, attempts, hl, rfl, -⟩ := h.stands hp
    rw [hl, receipts_append, receipts_append, receipts_trailed, receipts_underway,
      List.length_append, List.length_append, List.length_map, withStats, LoopStats.rounds_eq]
    rfl
  | finished outcome =>
    obtain ⟨c, hl, rfl, -⟩ := h.stands hp
    rw [hl, receipts_course]
    exact congrArg LoopStats.received (LoopStats.course_eq l.stats c)

theorem Trail.receptive (h : Trail l r deeds) : Receptive l r.loop deeds :=
  ⟨h.counted, Idle.untaken, h.idle⟩

/-- What a run that opens its source receives first. -/
theorem Course.first_receipt (source : ChannelKey) (rounds : List Round) (ending : Ending) :
    ∃ answer rest, (opened rounds ending).deeds source =
        .opened source (.ok ()) :: .received source answer :: rest ∧
      ((opened rounds ending).taken = [] ↔ ∀ m, answer ≠ .ok (some m)) := by
  cases rounds with
  | nil => cases ending <;> exact ⟨_, _, rfl, by simp [taken, Course.rounds, handedBack]⟩
  | cons round rounds => exact ⟨_, _, rfl, by simp [taken, Course.rounds]⟩

/-- **A call that does not heed the state of its loop**: the same could have been made of the loop
in any other state. -/
structure Heedless (p : Access σ) (others : σ → σ → Prop) (call : Returned σ) : Prop
    extends Receptive call.found call.left call.deeds where
  same : ∀ s, Calls p others (call.found.inState s)
    [{ call with found := call.found.inState s }] call.left
  stopped : call.left.state = .stopped

theorem Driven.heedless (run : Driven p others (l.start thread) w r w' deeds)
    {outcome : Except LoopError LoopStats} (out : r.outcome? = some outcome) :
    Heedless p others ⟨l, w, deeds, outcome, w', r.loop⟩ where
  toReceptive := run.trail.receptive
  same s := .call (run.inState out s) out (.none r.loop)
  stopped := run.stops out

/-- What holds of every call that returns holds of all calls. -/
theorem Calls.forall_mem {P : Returned σ → Prop} (run : Calls p others l calls l')
    (each : ∀ {l thread w r w' deeds outcome}, Driven p others (l.start thread) w r w' deeds →
      r.outcome? = some outcome → P ⟨l, w, deeds, outcome, w', r.loop⟩) : ∀ call ∈ calls, P call := by
  induction run with
  | none l => exact List.forall_mem_nil _
  | call driven out _ ih => exact List.forall_mem_cons.mpr ⟨each driven out, ih⟩

end Loop

/-! ## A loop that has its node to itself -/

namespace Node

open Loop (Course Deed Driven receipts receipts_course)

theorem steady_soleLoopAccess : soleLoopAccess.Steady where
  emitted _ _ := rfl
  unopened _ _ h := by cases h
  unreceived key wait n h := by
    show ({ n with transport := (n.transport.receiveAlone key wait).2 } : Node) = n
    rw [Transport.receiveAlone_unanswered (Option.map_eq_none_iff.mp h)]
  unsent key m wait n h := by
    show ({ n with transport := (n.transport.sendAlone key m wait).2 } : Node) = n
    rw [Transport.sendAlone_unanswered h]

/-- A receive that is over brought no message just if there was none. -/
theorem receive_nothing_iff {n n' : Node} {key : ChannelKey} {wait : WaitPolicy}
    {answer : Except TransportError (Option Message)}
    (received : soleLoopAccess.receive key wait n = (some answer, n')) :
    (∀ m, answer ≠ .ok (some m)) ↔ n.transport.messages key = [] := by
  have answered : (n.transport.receiveAlone key wait).1.map .ok = some answer :=
    congrArg Prod.fst received
  rcases called : n.transport.receiveAlone key wait with ⟨_ | brought, t⟩
  · rw [called] at answered
    cases answered
  · rw [called] at answered
    cases answered
    cases Transport.handled_receiveAlone called with
    | received _ m rest queued =>
      rw [queued]
      exact ⟨fun nothing => absurd rfl (nothing m), nofun⟩
    | nothing _ empty => exact ⟨fun _ => empty, fun _ => nofun⟩

/-- **A call of a loop that has its node to itself takes a message if the source has one.** -/
theorem receipts_eq_nil_iff {l : Loop} {thread : String} {n n' : Node} {r : Run} {deeds : List Deed}
    {outcome : Except LoopError LoopStats}
    (run : Driven soleLoopAccess (fun _ _ => False) (l.start thread) n r n' deeds)
    (out : r.outcome? = some outcome) :
    receipts l.source deeds = [] ↔ n.transport.messages l.source = [] := by
  obtain ⟨trail, played⟩ := run.played steady_soleLoopAccess
  obtain ⟨c, -, rfl, -⟩ := trail.ended out
  rw [receipts_course]
  cases c with
  | unopened e =>
    obtain ⟨_, opened, -⟩ := played
    cases congrArg Prod.fst opened
  | opened rounds ending =>
    obtain ⟨answer, rest, did, nothing⟩ := Course.first_receipt l.source rounds ending
    rw [did] at played
    obtain ⟨_, opened, _, received, -⟩ := played
    -- Opening a channel counts a handle and leaves the messages alone.
    cases congrArg Prod.snd opened
    have first := receive_nothing_iff received
    exact nothing.trans first

end Node

/-- **A stopped loop can be run again.** Every call of a loop leaves it stopped, and so it remains,
yet whatever a run of it has done at any moment it would have done in any state of the loop: nothing
just if it has received no message. On a node that the loop has to itself, a call does nothing just
if the source is empty. -/
theorem stopped_loop_runs_again {σ : Type} {p : Loop.Access σ} {others : σ → σ → Prop}
    {l l' : Loop} {calls : List (Loop.Returned σ)} (run : Loop.Calls p others l calls l') :
    ((∀ call ∈ calls.tail, call.found.state = .stopped) ∧
      (l.state = .stopped ∨ calls ≠ [] → l'.state = .stopped)) ∧
    (∀ call ∈ calls, Loop.Heedless p others call) ∧
    (∀ {thread w r w' deeds}, Loop.Driven p others (l'.start thread) w r w' deeds →
      (l'.state = .stopped → r.loop.state = .stopped) ∧ Loop.Receptive l' r.loop deeds ∧
      ∀ s, ∃ r', r.Restated s r' ∧
        Loop.Driven p others ((l'.inState s).start thread) w r' w' deeds) ∧
    ∀ {l l' : Loop} {calls : List (Loop.Returned Node)},
      Loop.Calls Node.soleLoopAccess (fun _ _ => False) l calls l' → ∀ call ∈ calls,
        (Loop.Idle call.found call.left call.deeds ↔
          call.before.transport.messages call.found.source = []) := by
  refine ⟨run.found_stopped, ?_, ?_, ?_⟩
  · exact run.forall_mem fun driven out => driven.heedless out
  · intro thread w r w' deeds again
    refine ⟨again.state_eq_stopped, again.trail.receptive, fun s => ?_⟩
    exact again.restated (.going rfl)
  · intro l l' calls alone
    refine alone.forall_mem fun driven out => ?_
    exact driven.trail.receptive.idle_iff.trans (Node.receipts_eq_nil_iff driven out)

/-! ## Two calls of one loop -/

def parcel (n : Nat) : Message := .new (.ofNat n) []

/-- A node whose source `s` has one message, for the target `t`. -/
def relay : Node where
  store := .memory (Table.putIfAbsent .empty
    { channel := ⟨"s"⟩, strategy := some .fanout, routes := [{ target := ⟨"t"⟩, keys := .ofList [] }] }).2
  transport := Transport.withQueue {} ⟨"s"⟩ { messages := [parcel 1] }

def relayLoop : Loop := { id := 2, source := ⟨"s"⟩, config := { receiveWait := .immediate } }

/-- The first call. Like the second it is not to be unfolded where terms are compared: that would
run it. -/
@[irreducible] def firstRun : Run × Node × List Loop.Deed :=
  Run.advance Node.soleLoopAccess.traced 20 (relayLoop.start "worker") (relay, [])

/-- Between the calls somebody puts one more message on the source. -/
def restocked : Node :=
  { firstRun.2.1 with transport := (firstRun.2.1.transport.enqueue ⟨"s"⟩ (parcel 2)).2 }

@[irreducible] def secondRun : Run × Node × List Loop.Deed :=
  Run.advance Node.soleLoopAccess.traced 20 (firstRun.1.loop.start "worker") (restocked, [])

def firstCall : Loop.Returned Node :=
  ⟨relayLoop, relay, firstRun.2.2, .ok { received := 1, forwarded := 1 }, firstRun.2.1,
    firstRun.1.loop⟩

def secondCall : Loop.Returned Node :=
  ⟨firstRun.1.loop, restocked, secondRun.2.2, .ok { received := 2, forwarded := 2 }, secondRun.2.1,
    secondRun.1.loop⟩

theorem called_twice :
    Loop.Calls Node.soleLoopAccess (fun _ _ => False) relayLoop [firstCall, secondCall]
      secondRun.1.loop := by
  have first : Loop.Driven Node.soleLoopAccess (fun _ _ => False) (relayLoop.start "worker") relay
      firstRun.1 firstRun.2.1 firstRun.2.2 := by
    unfold firstRun
    exact Loop.Driven.advance .start 20
  have second : Loop.Driven Node.soleLoopAccess (fun _ _ => False)
      (firstRun.1.loop.start "worker") restocked secondRun.1 secondRun.2.1 secondRun.2.2 := by
    unfold secondRun
    exact Loop.Driven.advance .start 20
  exact .call first (by decide +kernel) (.call second (by decide +kernel) (.none _))

/-- The second call finds the loop stopped and leaves it so, and is not idle. -/
theorem stopped_loop_runs_again_relay :
    secondCall.found.state = .stopped ∧ secondCall.left.state = .stopped ∧
      Loop.Heedless Node.soleLoopAccess (fun _ _ => False) secondCall ∧
      ¬ Loop.Idle secondCall.found secondCall.left secondCall.deeds := by
  obtain ⟨⟨found, left⟩, heedless, -, alone⟩ := stopped_loop_runs_again called_twice
  refine ⟨found _ List.mem_cons_self, left (.inr (List.cons_ne_nil _ _)), heedless _ ?_, ?_⟩
  · exact List.mem_cons_of_mem _ List.mem_cons_self
  · intro idle
    have empty := (alone called_twice _ (List.mem_cons_of_mem _ List.mem_cons_self)).mp idle
    exact absurd empty (by decide +kernel)

/-- **Stopped is not terminal.** A second call of a loop that is stopped takes the message that came
in the meantime, sends it to the target, and counts it. -/
theorem stopped_is_not_terminal :
    Loop.Calls Node.soleLoopAccess (fun _ _ => False) relayLoop [firstCall, secondCall]
        secondRun.1.loop ∧
      secondCall.found.state = .stopped ∧
      Loop.receipts ⟨"s"⟩ secondCall.deeds = [parcel 2] ∧
      Loop.deliveries ⟨"t"⟩ secondCall.deeds = [parcel 2] ∧
      secondCall.found.stats = { received := 1, forwarded := 1 } ∧
      secondCall.left.stats = { received := 2, forwarded := 2 } := by
  refine ⟨called_twice, ?_, ?_, ?_, ?_, ?_⟩ <;> decide +kernel

end ChannelRouting
