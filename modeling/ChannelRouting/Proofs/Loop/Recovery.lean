import ChannelRouting.Proofs.Loop.Delivery

/-!
# What a call answers for

A call of a loop ends because its source is drained, or on one of four failures: the
source cannot be opened, a receive fails, the entry cannot be read, or there is none.
However it ends, no message is lost on the way. The messages that were queued when the
call began are those it processed, in order, then the one it hands back, if it took one
that it could not route, and then those that are still queued (`Answers.conserved`). So
the owner of the loop has only to put the message back in front.

`Parted` says what the last deeds of a call were, by what it reports: between taking the
message that is handed back and returning, the call reads the entry and lets its source
go, and that is all.

A loop can read the table of its store and nothing else. Over an access that keeps the
table (`Access.Keeps`) the one that is there when a loop returns came about through the
changes that others made (`Driven.changes`).
-/

namespace ChannelRouting.Loop

variable {σ τ : Type}

/-- What others do to what is shown of the surroundings. -/
def Changes (others : σ → σ → Prop) (view : σ → τ) : τ → τ → Prop := Relation.Map others view view

/-- **Whatever changes while a loop runs, others have changed.** -/
theorem Driven.changes {p : Access σ} {others : σ → σ → Prop} {view : σ → τ} {l : Loop}
    {thread : String} {w w' : σ} {r : Run} {deeds : List Deed} (keeps : p.Keeps view)
    (run : Driven p others (l.start thread) w r w' deeds) :
    Relation.ReflTransGen (Changes others view) (view w) (view w') := by
  have apart (w w' : σ) (h : others w w') :
      Relation.ReflTransGen (Changes others view) (view w) (view w') := .single ⟨w, w', h, rfl, rfl⟩
  exact (run.invariant (keeps.law (Changes others view)) apart).2

/-! ## The end of a call -/

/-- **How a call parted from its source**: what it reports, the message it hands back, and all that
it did. `rounds` are the messages it processed. -/
inductive Parted (source : ChannelKey) (rounds : List Round) :
    Except LoopError LoopStats → Option Message → List Deed → Prop
  | drained (stats : LoopStats) :
    Parted source rounds (.ok stats) none
      (trailed source rounds ++ [.received source (.ok none), .released source])
  | unopened (e : TransportError) : rounds = [] →
    Parted source rounds (.error (.open_ e)) none [.opened source (.error e)]
  | failed (e : TransportError) :
    Parted source rounds (.error (.receive e)) none
      (trailed source rounds ++ [.received source (.error e), .released source])
  | absent (m : Message) :
    Parted source rounds (.error (.entryAbsent source m)) (some m)
      (trailed source rounds ++
        [.received source (.ok (some m)), .read source (.ok none), .released source])
  | unreadable (m : Message) (e : StoreError) :
    Parted source rounds (.error (.store e m)) (some m)
      (trailed source rounds ++
        [.received source (.ok (some m)), .read source (.error e), .released source])

/-- A course parts as its ending says. -/
theorem parted_course (source : ChannelKey) (s : LoopStats) (c : Course) :
    Parted source c.rounds (c.outcome source s) c.handedBack (c.deeds source) := by
  rcases c with e | ⟨rounds, _ | e | m | ⟨m, e⟩⟩
  · exact .unopened e rfl
  · exact .drained (s.rounds rounds)
  · exact .failed e
  · exact .absent m
  · exact .unreadable m e

/-- The error that a call returns holds the message that its course hands back. -/
theorem handedBack_course (source : ChannelKey) (call : Returned σ) (c : Course)
    (out : call.outcome = c.outcome source call.found.stats) : call.handedBack = c.handedBack := by
  unfold Returned.handedBack
  rw [out]
  rcases c with e | ⟨rounds, _ | e | m | ⟨m, e⟩⟩ <;> rfl

/-- **What a call that has returned answers for.** `rounds` are the messages it processed, each of
which was tried on every target it had. -/
structure Answers (source : ChannelKey) (queue : σ → List Message) (table : σ → τ)
    (others : σ → σ → Prop) (call : Returned σ) (rounds : List Round) : Prop where
  /-- No message is lost. -/
  conserved : queue call.before =
    rounds.map Round.message ++ call.handedBack.toList ++ queue call.after
  /-- The message that is handed back is the last of those received. -/
  received : receipts source call.deeds = rounds.map Round.message ++ call.handedBack.toList
  parted : Parted source rounds call.outcome call.handedBack call.deeds
  stopped : call.left.state = .stopped
  /-- The table is what others have made of it. -/
  changed : Relation.ReflTransGen (Changes others table) (table call.before) (table call.after)
  /-- The counters have grown by what was processed, and by one more message received if one is
  handed back. -/
  counted : call.left.stats =
    { received := call.found.stats.received + rounds.length + call.handedBack.toList.length
      forwarded := call.found.stats.forwarded +
        (rounds.flatMap Round.attempts).countP Attempt.succeeded
      dropped := call.found.stats.dropped + rounds.countP (fun r => !LoopStats.routed r)
      sendErrors := call.found.stats.sendErrors ++ rounds.flatMap LoopStats.failures }

/-- A call whose deeds are a course answers for the rounds of it. -/
theorem answers_of_course {source : ChannelKey} {queue : σ → List Message} {table : σ → τ}
    {others : σ → σ → Prop} {call : Returned σ} {c : Course} (did : call.deeds = c.deeds source)
    (out : call.outcome = c.outcome source call.found.stats)
    (left : call.left =
      { call.found.withStats (call.found.stats.course c) with state := .stopped })
    (consumed : queue call.before = receipts source call.deeds ++ queue call.after)
    (changed : Relation.ReflTransGen (Changes others table) (table call.before) (table call.after)) :
    Answers source queue table others call c.rounds := by
  have back : call.handedBack = c.handedBack := handedBack_course source call c out
  have received : receipts source call.deeds =
      c.rounds.map Round.message ++ call.handedBack.toList := by
    rw [did, back]
    exact receipts_course source c
  refine ⟨?_, received, ?_, ?_, changed, ?_⟩
  · rw [← received]
    exact consumed
  · rw [out, back, did]
    exact parted_course source call.found.stats c
  · rw [left]
  · have taken : c.rounds.length + call.handedBack.toList.length = c.taken.length := by
      rw [back, Course.taken, List.length_append, List.length_map]
    rw [left, Nat.add_assoc, taken]
    exact LoopStats.course_eq call.found.stats c

/-- **No message is lost, however a call ends.** Others may change the table while the call runs and
make any read of it fail, and opening and sending may fail in any pattern; they leave alone only
the source, to which the loop sends nothing itself. -/
theorem returned_call_answers {p : Access σ} {others : σ → σ → Prop} {queue : σ → List Message}
    {table : σ → τ} {l : Loop} {thread : String} {w w' : σ} {r : Run} {deeds : List Deed}
    {outcome : Except LoopError LoopStats} (fifo : p.Fifo l.source queue) (keeps : p.Keeps table)
    (apart : ∀ w w', others w w' → queue w' = queue w)
    (run : Driven p others (l.start thread) w r w' deeds) (out : r.outcome? = some outcome)
    (outward : Outward l.source deeds) :
    ∃ rounds, Answers l.source queue table others ⟨l, w, deeds, outcome, w', r.loop⟩ rounds := by
  obtain ⟨trail, consumes⟩ := run.invariant fifo.law fun w w' h _ => (apart w w' h).symm
  have changed := run.changes keeps
  obtain ⟨c, left, did, reported⟩ := trail.ended out
  have consumed : queue w = receipts l.source deeds ++ queue w' := by
    refine consumes ?_
    subst did
    exact outward.not_sent
  exact ⟨c.rounds, answers_of_course did reported left consumed changed⟩

/-! ## A store that fails -/

/-- The message that the loop takes when the store is down. -/
def stranded : Message := (Message.new (.ofNat 3) []).withRoutingKey "k"

/-- A node whose source has three messages: one for two targets, of which one is closed, one for no
target, and one more for both. -/
def outageNode : Node :=
  let route (name : String) : Route := { target := ⟨name⟩, keys := .ofList ["k"] }
  let both := (Message.new (.ofNat 1) []).withRoutingKey "k"
  let nowhere := (Message.new (.ofNat 2) []).withRoutingKey "other"
  { store := .memory (Table.putIfAbsent .empty
      { channel := ⟨"s"⟩, strategy := some .direct, routes := [route "a", route "b"] }).2
    transport :=
      (Transport.withQueue {} ⟨"s"⟩ { messages := [both, nowhere, stranded] }).close ⟨"b"⟩ }

/-- The node seen by a loop whose store is down once the source is empty. -/
def outageAccess : Access Node :=
  Node.soleLoopAccess.outage fun n =>
    if n.transport.messages ⟨"s"⟩ = [] then some (.unavailable "down") else none

/-- A whole call over it. It is not to be unfolded where terms are compared: that would run it. -/
@[irreducible] def outageRun : Run × Node × List Deed :=
  Run.advance outageAccess.traced 40 (fanOutLoop.start "worker") (outageNode, [])

/-- One message is delivered and fails once, one is dropped, and the third is handed back. -/
theorem returned_call_answers_outage :
    outageRun.1.outcome? = some (.error (.store (.unavailable "down") stranded)) ∧
      (outageRun.1.loop.stats.forwarded = 1 ∧ outageRun.1.loop.stats.dropped = 1 ∧
        outageRun.1.loop.stats.sendErrors.length = 1 ∧ outageRun.1.loop.stats.received = 3) ∧
      ∃ rounds, Answers ⟨"s"⟩ (fun n => n.transport.messages ⟨"s"⟩) Node.store
        (fun n n' => n'.transport.messages ⟨"s"⟩ = n.transport.messages ⟨"s"⟩)
        ⟨fanOutLoop, outageNode, outageRun.2.2, .error (.store (.unavailable "down") stranded),
          outageRun.2.1, outageRun.1.loop⟩ rounds := by
  have out : outageRun.1.outcome? = some (.error (.store (.unavailable "down") stranded)) := by
    decide +kernel
  refine ⟨out, by decide +kernel, ?_⟩
  have fifo := (Node.fifo_of_law Node.law_soleLoopAccess ⟨"s"⟩).outage fun n =>
    if n.transport.messages ⟨"s"⟩ = [] then some (.unavailable "down") else none
  have keeps := (Node.keeps_of_law Node.law_soleLoopAccess).outage fun n =>
    if n.transport.messages ⟨"s"⟩ = [] then some (.unavailable "down") else none
  have run : Driven outageAccess
      (fun n n' => n'.transport.messages ⟨"s"⟩ = n.transport.messages ⟨"s"⟩)
      (fanOutLoop.start "worker") outageNode outageRun.1 outageRun.2.1 outageRun.2.2 := by
    unfold outageRun
    exact Driven.advance .start 40
  have away : outageRun.2.2.all (Deed.routesAway ⟨"s"⟩) = true := by decide +kernel
  exact returned_call_answers fifo keeps (fun _ _ h => h) run out (outward_of_routes away)

end ChannelRouting.Loop
