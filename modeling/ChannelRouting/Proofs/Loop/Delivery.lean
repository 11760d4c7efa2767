import ChannelRouting.Proofs.Loop.Counters
import ChannelRouting.Proofs.Loop.Node
import Mathlib.Data.List.Forall2

/-!
# What a loop delivers

`calls_deliver` is the delivery contract of a loop, over any number of its calls. Every
call that has returned is told as a course: it received the front of its source, it
tried every target of every message once and in ascending order before it took the next
message, each target got the messages in the order of the source and none of them twice,
and the counters add up.

Others may do anything meanwhile that leaves the messages of the source alone.
-/

namespace ChannelRouting.Loop

variable {σ : Type}

/-- The message that a call hands back in its error. -/
def Returned.handedBack (call : Returned σ) : Option Message :=
  match call.outcome with
  | .ok _ => none
  | .error e => e.message?

/-- **What a call delivers**, told as a course. -/
structure Delivers (source : ChannelKey) (queue : σ → List Message) (call : Returned σ)
    (c : Course) : Prop where
  /-- What the call did: rounds, each of which tries the targets of its message once, in
  order, and nothing else. -/
  deeds : call.deeds = c.deeds source
  ascending : ∀ r ∈ c.rounds, (r.attempts.map Attempt.target).Pairwise (· < ·)
  /-- What it received was the front of the source. -/
  received : queue call.before = receipts source call.deeds ++ queue call.after
  /-- All of that was routed, up to a message that is handed back. -/
  taken : receipts source call.deeds = c.rounds.map Round.message ++ call.handedBack.toList
  /-- A target got the messages of the rounds that reached it. -/
  delivered : ∀ t, deliveries t call.deeds = (c.rounds.filter (Round.delivers t)).map Round.message
  /-- They are in the order of the receipts, each at most once. -/
  inOrder : ∀ t, (deliveries t call.deeds).Sublist (receipts source call.deeds)
  outcome : call.outcome = c.outcome source call.found.stats
  stats : call.left.stats = call.found.stats.course c

/-- No message that was received had the source among its targets, under the entry that was read
for it. -/
def Outward (source : ChannelKey) (deeds : List Deed) : Prop :=
  ∀ m e, [.received source (.ok (some m)), .read source (.ok (some e))] <:+: deeds →
    source ∉ e.targets m

/-- The messages of attempts go to the targets that are tried. -/
theorem target_of_sent {m m' : Message} {k : ChannelKey} {a : Except TransportError Unit}
    {attempts : List Attempt} (h : .sent k m' a ∈ attempts.flatMap (Attempt.deeds m)) :
    k ∈ attempts.map Attempt.target := by
  obtain ⟨attempt, ha, hd⟩ := List.mem_flatMap.mp h
  refine List.mem_map.mpr ⟨attempt, ha, ?_⟩
  cases attempt <;>
    simp only [Attempt.deeds, List.mem_cons, List.not_mem_nil, or_false, false_or, reduceCtorEq,
      Deed.sent.injEq] at hd
  · exact hd.1.symm
  · exact hd.1.symm

/-- The deeds of a round follow one another in the run. -/
theorem infix_deeds_of_round {source : ChannelKey} {c : Course} {r : Round} (hr : r ∈ c.rounds) :
    r.deeds source <:+: c.deeds source := by
  cases c with
  | unopened e => cases hr
  | opened rounds ending =>
    have among : r.deeds source <:+: rounds.flatMap (Round.deeds source) :=
      List.infix_of_mem_flatten (List.mem_map_of_mem hr)
    exact (List.infix_cons among).trans (List.prefix_append _ _).isInfix

theorem mem_deeds_of_round {source : ChannelKey} {c : Course} {r : Round} (hr : r ∈ c.rounds)
    {d : Deed} (hd : d ∈ r.deeds source) : d ∈ c.deeds source :=
  (infix_deeds_of_round hr).subset hd

/-- A call none of whose messages had the source among its targets did not try it. -/
theorem Outward.not_tried {source : ChannelKey} {c : Course}
    (outward : Outward source (c.deeds source)) {r : Round} (hr : r ∈ c.rounds) :
    source ∉ r.attempts.map Attempt.target := by
  rw [r.complete, ← SortedSet.mem_def]
  -- A round begins with the receipt of its message, and then the entry is read.
  have begins : [.received source (.ok (some r.message)), .read source (.ok (some r.entry))] <+:
      r.deeds source := List.prefix_append _ _
  exact outward r.message r.entry (begins.isInfix.trans (infix_deeds_of_round hr))

/-- It sent nothing to it either. -/
theorem Outward.not_sent {source : ChannelKey} {c : Course} (outward : Outward source (c.deeds source))
    (m : Message) (a : Except TransportError Unit) : .sent source m a ∉ c.deeds source := by
  intro h
  cases c with
  | unopened e =>
    cases List.mem_singleton.mp h
  | opened rounds ending =>
    simp only [Course.deeds, List.mem_append] at h
    rcases h with h | h
    · rcases List.mem_cons.mp h with h | h
      · cases h
      · obtain ⟨r, hr, hd⟩ := List.mem_flatMap.mp h
        simp only [Round.deeds, List.mem_cons, reduceCtorEq, false_or] at hd
        exact outward.not_tried hr (target_of_sent hd)
    · cases ending <;>
        simp only [Ending.deeds, List.mem_cons, List.not_mem_nil, or_false, reduceCtorEq] at h

/-- One call. -/
theorem Driven.delivers {p : Access σ} {others : σ → σ → Prop} {queue : σ → List Message} {l : Loop}
    {thread : String} {w w' : σ} {r : Run} {deeds : List Deed}
    {outcome : Except LoopError LoopStats} (fifo : p.Fifo l.source queue)
    (apart : ∀ w w', others w w' → queue w' = queue w)
    (run : Driven p others (l.start thread) w r w' deeds) (out : r.outcome? = some outcome)
    (outward : Outward l.source deeds) :
    r.loop.source = l.source ∧
      ∃ c, Delivers l.source queue ⟨l, w, deeds, outcome, w', r.loop⟩ c := by
  obtain ⟨trail, consumes⟩ := run.invariant fifo.law fun w w' h _ => (apart w w' h).symm
  obtain ⟨c, hl, rfl, rfl⟩ := trail.ended out
  refine ⟨trail.source, c, rfl, ?_, consumes outward.not_sent, ?_, fun t => deliveries_course l.source t c,
    fun t => deliveries_sublist l.source t c, rfl, by rw [hl]; rfl⟩
  · intro r _
    rw [r.complete]
    exact (r.entry.targets r.message).ascending
  · rw [receipts_course, Course.taken]
    rcases c with e | ⟨rounds, _ | e | m | ⟨m, e⟩⟩ <;> rfl

/-- **The delivery contract of a loop.** -/
theorem calls_deliver {p : Access σ} {others : σ → σ → Prop} {queue : σ → List Message}
    {l l' : Loop} {calls : List (Returned σ)} (fifo : p.Fifo l.source queue)
    (apart : ∀ w w', others w w' → queue w' = queue w) (run : Calls p others l calls l')
    (outward : ∀ call ∈ calls, Outward l.source call.deeds) :
    ∃ cs : List Course, List.Forall₂ (Delivers l.source queue) calls cs ∧
      LoopStats.Counted l.stats l'.stats cs := by
  suffices told : ∃ cs : List Course, List.Forall₂ (Delivers l.source queue) calls cs ∧
      l'.stats = l.stats.courses cs by
    obtain ⟨cs, delivers, stats⟩ := told
    exact ⟨cs, delivers, stats ▸ LoopStats.counted l.stats cs⟩
  induction run with
  | none l => exact ⟨[], .nil, rfl⟩
  | call driven out _ ih =>
    obtain ⟨source, c, delivers⟩ :=
      driven.delivers fifo apart out (outward _ List.mem_cons_self)
    rw [source] at ih
    obtain ⟨cs, rest, stats⟩ := ih fifo fun call hc => outward call (List.mem_cons_of_mem _ hc)
    exact ⟨c :: cs, .cons delivers rest, by rw [stats, delivers.stats]; rfl⟩

/-- Whether a deed, if it is a read, brought an entry without a route to the source. -/
def Deed.routesAway (source : ChannelKey) : Deed → Bool
  | .read _ (.ok (some e)) => e.routes.all fun r => r.target ≠ source
  | _ => true

/-- A source to which no entry has a route is nobody's target. -/
theorem outward_of_routes {source : ChannelKey} {deeds : List Deed}
    (h : deeds.all (Deed.routesAway source) = true) : Outward source deeds := by
  intro m e met target
  have read : .read source (.ok (some e)) ∈ deeds :=
    met.subset (List.mem_cons_of_mem _ List.mem_cons_self)
  have away := List.all_eq_true.mp h _ read
  simp only [Deed.routesAway, List.all_eq_true, decide_eq_true_eq] at away
  obtain ⟨r, hr, ht⟩ := Entry.exists_route_of_mem_targets target
  exact away r hr ht

/-- A node whose source has two messages for three targets, one of which is closed. -/
def fanOut : Node :=
  let route (name : String) : Route := { target := ⟨name⟩, keys := .ofList ["k"] }
  let routes := [route "c", route "a", route "b"]
  let queued : Queue := { messages := [.new (.ofNat 1) [], .new (.ofNat 2) []] }
  { store := .memory
      (Table.putIfAbsent .empty { channel := ⟨"s"⟩, strategy := some .fanout, routes := routes }).2
    transport := (Transport.withQueue {} ⟨"s"⟩ queued).close ⟨"b"⟩ }

/-- The node seen by a loop that cannot open one more target. -/
def fanOutAccess : Access Node :=
  Node.soleLoopAccess.failing
    (fun key => if key = ⟨"c"⟩ then some (.io "unreachable") else none) fun _ => none

/-- A loop that does not wait for messages. -/
def fanOutLoop : Loop := { id := 0, source := ⟨"s"⟩, config := { receiveWait := .immediate } }

/-- A whole call of it. It is not to be unfolded where terms are compared: that would run it. -/
@[irreducible] def fanOutRun : Run × Node × List Deed :=
  Run.advance fanOutAccess.traced 40 (fanOutLoop.start "worker") (fanOut, [])

/-- Both messages reach the one target that works. -/
theorem calls_deliver_fanOut :
    (fanOutRun.1.loop.stats.forwarded = 2 ∧ fanOutRun.1.loop.stats.sendErrors.length = 4) ∧
      ∃ outcome cs,
        List.Forall₂ (Delivers ⟨"s"⟩ fun n => n.transport.messages ⟨"s"⟩)
          [⟨fanOutLoop, fanOut, fanOutRun.2.2, outcome, fanOutRun.2.1, fanOutRun.1.loop⟩] cs ∧
        LoopStats.Counted fanOutLoop.stats fanOutRun.1.loop.stats cs := by
  refine ⟨by decide +kernel, ?_⟩
  have returned : fanOutRun.1.outcome?.isSome = true := by decide +kernel
  obtain ⟨outcome, out⟩ := Option.isSome_iff_exists.mp returned
  have fifo := (Node.fifo_of_law Node.law_soleLoopAccess ⟨"s"⟩).failing
    (fun key => if key = ⟨"c"⟩ then some (.io "unreachable") else none) fun _ => none
  have run : Driven fanOutAccess (fun n n' => n'.transport.messages ⟨"s"⟩ = n.transport.messages ⟨"s"⟩)
      (fanOutLoop.start "worker") fanOut fanOutRun.1 fanOutRun.2.1 fanOutRun.2.2 := by
    unfold fanOutRun
    exact Driven.advance .start 40
  refine ⟨outcome, calls_deliver fifo (fun _ _ h => h) (.call run out (.none _)) ?_⟩
  have away : fanOutRun.2.2.all (Deed.routesAway ⟨"s"⟩) = true := by decide +kernel
  intro call hc
  cases List.mem_singleton.mp hc
  exact outward_of_routes away

end ChannelRouting.Loop
