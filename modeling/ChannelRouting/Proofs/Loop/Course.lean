import ChannelRouting.Proofs.Loop.Deed

/-!
# The course of a run

What a run does has one shape. It opens its source; then it goes round after round,
each of which takes a message, reads the entry and tries every target of the message
once, in ascending order; and then it comes to an end. A `Course` is a run told in
these terms, and `Course.deeds` the very calls it consists of.

`Trail` is the invariant: how the deeds so far and the loop's counters stand to the
phase of the run, with the rounds that are complete and the one that is not. Every move
keeps it (`Trail.move`), and at the end of a run it says that the run was a course.
-/

namespace ChannelRouting.Loop

/-- How the attempt at one target of a message went. -/
inductive Attempt where
  | unopened (target : ChannelKey) (e : TransportError)
  | refused (target : ChannelKey) (e : TransportError)
  | delivered (target : ChannelKey)

namespace Attempt

def target : Attempt → ChannelKey
  | unopened t _ | refused t _ | delivered t => t

def succeeded : Attempt → Bool
  | unopened .. | refused .. => false
  | delivered _ => true

/-- What the loop notes of an attempt that failed. -/
def failure? (m : Message) : Attempt → Option SendFailure
  | unopened t e | refused t e => some { target := t, messageId := m.id, error := e }
  | delivered _ => none

def deeds (m : Message) : Attempt → List Deed
  | unopened t e => [.opened t (.error e)]
  | refused t e => [.opened t (.ok ()), .sent t m (.error e), .released t]
  | delivered t => [.opened t (.ok ()), .sent t m (.ok ()), .released t]

end Attempt

/-- A message that was routed: every target of it under the entry was tried once, in order. -/
structure Round where
  message : Message
  entry : Entry
  attempts : List Attempt
  complete : attempts.map Attempt.target = (entry.targets message).toList

def Round.deeds (source : ChannelKey) (r : Round) : List Deed :=
  .received source (.ok (some r.message)) :: .read source (.ok (some r.entry)) ::
    r.attempts.flatMap (Attempt.deeds r.message)

/-- How a run came to its end. -/
inductive Ending where
  | drained
  | failed (e : TransportError)
  | absent (m : Message)
  | unreadable (m : Message) (e : StoreError)

def Ending.deeds (source : ChannelKey) : Ending → List Deed
  | drained => [.received source (.ok none), .released source]
  | failed e => [.received source (.error e), .released source]
  | absent m => [.received source (.ok (some m)), .read source (.ok none), .released source]
  | unreadable m e => [.received source (.ok (some m)), .read source (.error e), .released source]

/-- **A whole run**, told in rounds. -/
inductive Course where
  | unopened (e : TransportError)
  | opened (rounds : List Round) (ending : Ending)

/-- The calls of a run that has gone some rounds. -/
def trailed (source : ChannelKey) (rounds : List Round) : List Deed :=
  .opened source (.ok ()) :: rounds.flatMap (Round.deeds source)

namespace Course

def deeds (source : ChannelKey) : Course → List Deed
  | unopened e => [.opened source (.error e)]
  | opened rounds ending => trailed source rounds ++ ending.deeds source

/-- The messages that were routed, with how that went. -/
def rounds : Course → List Round
  | unopened _ => []
  | opened rounds _ => rounds

/-- The message that was taken and not routed. -/
def handedBack : Course → Option Message
  | unopened _ | opened _ .drained | opened _ (.failed _) => none
  | opened _ (.absent m) | opened _ (.unreadable m _) => some m

def taken (c : Course) : List Message := c.rounds.map Round.message ++ c.handedBack.toList

end Course

end ChannelRouting.Loop

/-! ## The counters -/

namespace ChannelRouting.LoopStats

open Loop (Attempt Round Course)

/-- The counters with one more message taken. -/
def take (s : LoopStats) : LoopStats := { s with received := s.received + 1 }

/-- The counters after attempts at targets of a message. -/
def tried (s : LoopStats) (m : Message) (attempts : List Attempt) : LoopStats :=
  { s with
    forwarded := s.forwarded + attempts.countP Attempt.succeeded
    sendErrors := s.sendErrors ++ attempts.filterMap (Attempt.failure? m) }

/-- The counters after a round. -/
def round (s : LoopStats) (r : Round) : LoopStats :=
  match r.attempts with
  | [] => { s.take with dropped := s.dropped + 1 }
  | _ :: _ => s.take.tried r.message r.attempts

def rounds (s : LoopStats) (rs : List Round) : LoopStats := rs.foldl round s

/-- The counters after a whole run. -/
def course (s : LoopStats) (c : Course) : LoopStats :=
  if c.handedBack.isSome then (s.rounds c.rounds).take else s.rounds c.rounds

theorem tried_nil (s : LoopStats) (m : Message) : s.tried m [] = s := by
  simp only [tried, List.countP_nil, List.filterMap_nil, List.append_nil, Nat.add_zero]

theorem tried_concat (s : LoopStats) (m : Message) (attempts : List Attempt) (a : Attempt) :
    s.tried m (attempts ++ [a]) = (s.tried m attempts).tried m [a] := by
  simp only [tried, List.countP_append, List.filterMap_append, List.append_assoc, Nat.add_assoc]

theorem rounds_concat (s : LoopStats) (rs : List Round) (r : Round) :
    s.rounds (rs ++ [r]) = (s.rounds rs).round r := by
  simp only [rounds, List.foldl_append, List.foldl_cons, List.foldl_nil]

end ChannelRouting.LoopStats

namespace ChannelRouting.Loop

/-- What a run reports that started with some counters. -/
def Course.outcome (source : ChannelKey) (s : LoopStats) : Course → Except LoopError LoopStats
  | unopened e => .error (.open_ e)
  | opened rounds .drained => .ok (s.rounds rounds)
  | opened _ (.failed e) => .error (.receive e)
  | opened _ (.absent m) => .error (.entryAbsent source m)
  | opened _ (.unreadable m e) => .error (.store e m)

def withStats (l : Loop) (s : LoopStats) : Loop := { l with stats := s }

/-! ## The invariant -/

/-- A round that is not complete: the message and the entry are read, and targets were tried. -/
def underway (source : ChannelKey) (m : Message) (e : Entry) (attempts : List Attempt) : List Deed :=
  .received source (.ok (some m)) :: .read source (.ok (some e)) ::
    attempts.flatMap (Attempt.deeds m)

/-- **How a run of a loop stands**, phase by phase: what it has done and what the loop has
counted. -/
def Stands (l : Loop) (now : Loop) (deeds : List Deed) : Phase → Prop
  | .ready | .opening => now = l ∧ deeds = []
  | .receiving => ∃ rounds, now = l.withStats (l.stats.rounds rounds) ∧
      deeds = trailed l.source rounds
  | .reading m => ∃ rounds, now = l.withStats (l.stats.rounds rounds).take ∧
      deeds = trailed l.source rounds ++ [.received l.source (.ok (some m))]
  | .forwarding m targets => ∃ rounds e attempts,
      now = l.withStats ((l.stats.rounds rounds).take.tried m attempts) ∧
      deeds = trailed l.source rounds ++ underway l.source m e attempts ∧
      attempts.map Attempt.target ++ targets = (e.targets m).toList ∧ (e.targets m).toList ≠ []
  | .reaching m t rest => ∃ rounds e attempts,
      now = l.withStats ((l.stats.rounds rounds).take.tried m attempts) ∧
      deeds = trailed l.source rounds ++ underway l.source m e attempts ∧
      attempts.map Attempt.target ++ t :: rest = (e.targets m).toList
  | .sending m t rest => ∃ rounds e attempts,
      now = l.withStats ((l.stats.rounds rounds).take.tried m attempts) ∧
      deeds = trailed l.source rounds ++ underway l.source m e attempts ++ [.opened t (.ok ())] ∧
      attempts.map Attempt.target ++ t :: rest = (e.targets m).toList
  | .finished outcome => ∃ course : Course,
      now = { l.withStats (l.stats.course course) with state := .stopped } ∧
      deeds = course.deeds l.source ∧ outcome = course.outcome l.source l.stats

/-- The invariant of a run that began as a run of `l`. -/
def Trail (l : Loop) (r : Run) (deeds : List Deed) : Prop := Stands l r.loop deeds r.phase

/-- How a run stands that is known to be in some phase. -/
theorem Trail.stands {l : Loop} {r : Run} {deeds : List Deed} {phase : Phase} (h : Trail l r deeds)
    (hp : r.phase = phase) : Stands l r.loop deeds phase := hp ▸ h

theorem trail_start (l : Loop) (thread : String) : Trail l (l.start thread) [] := ⟨rfl, rfl⟩

theorem trailed_concat (source : ChannelKey) (rounds : List Round) (r : Round) :
    trailed source (rounds ++ [r]) = trailed source rounds ++ r.deeds source := by
  simp only [trailed, List.flatMap_append, List.flatMap_cons, List.flatMap_nil, List.append_nil,
    List.cons_append]

theorem underway_concat (source : ChannelKey) (m : Message) (e : Entry) (attempts : List Attempt)
    (a : Attempt) :
    underway source m e (attempts ++ [a]) = underway source m e attempts ++ a.deeds m := by
  simp only [underway, List.flatMap_append, List.flatMap_cons, List.flatMap_nil, List.append_nil,
    List.cons_append]

/-- A run changes nothing of its loop but its counters and its state. -/
theorem Trail.loop {l : Loop} {r : Run} {deeds : List Deed} (h : Trail l r deeds) :
    ∃ stats state, r.loop = { l with stats := stats, state := state } := by
  cases hp : r.phase with
  | ready | opening => exact ⟨l.stats, l.state, (h.stands hp).1⟩
  | receiving | reading m | finished outcome =>
    obtain ⟨_, hl, _⟩ := h.stands hp
    exact ⟨_, _, hl⟩
  | forwarding m targets | reaching m t rest | sending m t rest =>
    obtain ⟨_, _, _, hl, _⟩ := h.stands hp
    exact ⟨_, _, hl⟩

theorem Trail.source {l : Loop} {r : Run} {deeds : List Deed} (h : Trail l r deeds) :
    r.loop.source = l.source := by
  obtain ⟨_, _, hl⟩ := h.loop
  rw [hl]

theorem Trail.config {l : Loop} {r : Run} {deeds : List Deed} (h : Trail l r deeds) :
    r.loop.config = l.config := by
  obtain ⟨_, _, hl⟩ := h.loop
  rw [hl]

/-- A round that is complete counts as its message and its attempts do. -/
theorem round_of_tried {s : LoopStats} {m : Message} {e : Entry} {attempts : List Attempt}
    (complete : attempts.map Attempt.target = (e.targets m).toList)
    (routed : (e.targets m).toList ≠ []) :
    s.take.tried m attempts = s.round ⟨m, e, attempts, complete⟩ := by
  cases attempts with
  | nil => exact absurd complete.symm routed
  | cons a rest => rfl

namespace Trail

variable {l : Loop} {r : Run} {deeds : List Deed}

/-- A run that has opened its source ends after its rounds. -/
theorem finish {rounds : List Round} (ending : Ending) {now : Loop}
    {outcome : Except LoopError LoopStats}
    (stats : now = l.withStats (l.stats.course (.opened rounds ending)))
    (out : outcome = (Course.opened rounds ending).outcome l.source l.stats) :
    Stands l { now with state := .stopped } (trailed l.source rounds ++ ending.deeds l.source)
      (.finished outcome) :=
  ⟨.opened rounds ending, by rw [stats], rfl, out⟩

theorem received (h : Trail l r deeds) (hp : r.phase = .receiving) (m : Message) :
    Trail l (r.goOn { r.loop.stats with received := r.loop.stats.received + 1 } (.reading m))
      (deeds ++ [.received r.loop.source (.ok (some m))]) := by
  rw [h.source]
  obtain ⟨rounds, hl, rfl⟩ := h.stands hp
  refine ⟨rounds, ?_, rfl⟩
  unfold Run.goOn
  rw [hl]
  rfl

theorem drained (h : Trail l r deeds) (hp : r.phase = .receiving) :
    Trail l (r.ended (.ok r.loop.stats))
      (deeds ++ [.received r.loop.source (.ok none), .released r.loop.source]) := by
  rw [h.source]
  obtain ⟨rounds, hl, rfl⟩ := h.stands hp
  exact finish .drained hl (by rw [hl]; rfl)

theorem receiveFailed (h : Trail l r deeds) (hp : r.phase = .receiving) (e : TransportError) :
    Trail l (r.ended (.error (.receive e)))
      (deeds ++ [.received r.loop.source (.error e), .released r.loop.source]) := by
  rw [h.source]
  obtain ⟨rounds, hl, rfl⟩ := h.stands hp
  exact finish (.failed e) hl rfl

theorem dropped (h : Trail l r deeds) {m : Message} (hp : r.phase = .reading m) {e : Entry}
    (unrouted : (e.targets m).toList = []) :
    Trail l (r.goOn { r.loop.stats with dropped := r.loop.stats.dropped + 1 } .receiving)
      (deeds ++ [.read r.loop.source (.ok (some e))]) := by
  rw [h.source]
  obtain ⟨rounds, hl, rfl⟩ := h.stands hp
  refine ⟨rounds ++ [⟨m, e, [], unrouted.symm⟩], ?_, ?_⟩
  · unfold Run.goOn
    rw [hl, LoopStats.rounds_concat]
    rfl
  · rw [trailed_concat, List.append_assoc]
    rfl

theorem resolved (h : Trail l r deeds) {m : Message} (hp : r.phase = .reading m) {e : Entry}
    (routed : (e.targets m).toList ≠ []) :
    Trail l (r.into (.forwarding m (e.targets m).toList))
      (deeds ++ [.read r.loop.source (.ok (some e))]) := by
  rw [h.source]
  obtain ⟨rounds, hl, rfl⟩ := h.stands hp
  refine ⟨rounds, e, [], ?_, ?_, rfl, routed⟩
  · rw [LoopStats.tried_nil]
    exact hl
  · rw [List.append_assoc]
    rfl

theorem absent (h : Trail l r deeds) {m : Message} (hp : r.phase = .reading m) :
    Trail l (r.ended (.error (.entryAbsent r.loop.source m)))
      (deeds ++ [.read r.loop.source (.ok none), .released r.loop.source]) := by
  rw [h.source]
  obtain ⟨rounds, hl, rfl⟩ := h.stands hp
  rw [List.append_assoc]
  exact finish (.absent m) hl rfl

theorem unreadable (h : Trail l r deeds) {m : Message} (hp : r.phase = .reading m)
    (e : StoreError) :
    Trail l (r.ended (.error (.store e m)))
      (deeds ++ [.read r.loop.source (.error e), .released r.loop.source]) := by
  rw [h.source]
  obtain ⟨rounds, hl, rfl⟩ := h.stands hp
  rw [List.append_assoc]
  exact finish (.unreadable m e) hl rfl

theorem forwarded (h : Trail l r deeds) {m : Message} (hp : r.phase = .forwarding m []) :
    Trail l (r.into .receiving) (deeds ++ []) := by
  rw [List.append_nil]
  obtain ⟨rounds, e, attempts, hl, rfl, hall, routed⟩ := h.stands hp
  rw [List.append_nil] at hall
  -- No target is left, so the round is complete.
  refine ⟨rounds ++ [⟨m, e, attempts, hall⟩], ?_, ?_⟩
  · rw [LoopStats.rounds_concat, ← round_of_tried hall routed]
    exact hl
  · rw [trailed_concat]
    rfl

theorem turned (h : Trail l r deeds) {m : Message} {t : ChannelKey} {rest : List ChannelKey}
    (hp : r.phase = .forwarding m (t :: rest)) :
    Trail l (r.into (.reaching m t rest)) (deeds ++ []) := by
  rw [List.append_nil]
  obtain ⟨rounds, e, attempts, hl, hd, hall, -⟩ := h.stands hp
  exact ⟨rounds, e, attempts, hl, hd, hall⟩

theorem reached (h : Trail l r deeds) {m : Message} {t : ChannelKey} {rest : List ChannelKey}
    (hp : r.phase = .reaching m t rest) :
    Trail l (r.into (.sending m t rest)) (deeds ++ [.opened t (.ok ())]) := by
  obtain ⟨rounds, e, attempts, hl, rfl, hall⟩ := h.stands hp
  exact ⟨rounds, e, attempts, hl, rfl, hall⟩

/-- An attempt is over: it is one of the round's, and the other targets follow. -/
theorem tried {rounds : List Round} {m : Message} {e : Entry} {attempts : List Attempt}
    {rest : List ChannelKey} {now next : Loop} (a : Attempt)
    (hl : now = l.withStats ((l.stats.rounds rounds).take.tried m attempts))
    (hall : attempts.map Attempt.target ++ a.target :: rest = (e.targets m).toList)
    (stats : next = now.withStats (now.stats.tried m [a])) :
    Stands l next
      (trailed l.source rounds ++ underway l.source m e attempts ++ a.deeds m)
      (.forwarding m rest) := by
  refine ⟨rounds, e, attempts ++ [a], ?_, ?_, ?_, ?_⟩
  · rw [stats, hl, LoopStats.tried_concat]
    rfl
  · rw [underway_concat, List.append_assoc]
  · rw [List.map_append, List.append_assoc]
    exact hall
  · rw [← hall]
    exact List.append_ne_nil_of_right_ne_nil _ (List.cons_ne_nil _ _)

theorem unreached (h : Trail l r deeds) {m : Message} {t : ChannelKey} {rest : List ChannelKey}
    (hp : r.phase = .reaching m t rest) (e : TransportError) :
    Trail l (r.noteFailure m t rest e) (deeds ++ [.opened t (.error e)]) := by
  obtain ⟨rounds, entry, attempts, hl, rfl, hall⟩ := h.stands hp
  exact tried (.unopened t e) hl hall rfl

theorem delivered (h : Trail l r deeds) {m : Message} {t : ChannelKey} {rest : List ChannelKey}
    (hp : r.phase = .sending m t rest) :
    Trail l
      (r.goOn { r.loop.stats with forwarded := r.loop.stats.forwarded + 1 } (.forwarding m rest))
      (deeds ++ [.sent t m (.ok ()), .released t]) := by
  obtain ⟨rounds, entry, attempts, hl, rfl, hall⟩ := h.stands hp
  rw [List.append_assoc]
  refine tried (.delivered t) hl hall ?_
  simp only [Run.goOn, Loop.withStats, LoopStats.tried, List.filterMap_cons, List.filterMap_nil,
    Attempt.failure?, List.append_nil]
  rfl

theorem refused (h : Trail l r deeds) {m : Message} {t : ChannelKey} {rest : List ChannelKey}
    (hp : r.phase = .sending m t rest) (e : TransportError) :
    Trail l (r.noteFailure m t rest e) (deeds ++ [.sent t m (.error e), .released t]) := by
  obtain ⟨rounds, entry, attempts, hl, rfl, hall⟩ := h.stands hp
  rw [List.append_assoc]
  exact tried (.refused t e) hl hall rfl

end Trail

/-- **Every move keeps the invariant.** -/
theorem Trail.move {l : Loop} {r r' : Run} {deeds new : List Deed} (h : Trail l r deeds)
    (move : r.Move new r') : Trail l r' (deeds ++ new) := by
  cases move with
  | began hp =>
    rw [List.append_nil]
    obtain ⟨hl, hd⟩ := h.stands hp
    exact ⟨hl, hd⟩
  | opened hp =>
    rw [h.source]
    obtain ⟨hl, hd⟩ := h.stands hp
    exact ⟨[], hl, by rw [hd]; rfl⟩
  | unopened e hp =>
    rw [h.source]
    obtain ⟨hl, hd⟩ := h.stands hp
    exact ⟨.unopened e, by rw [← hl]; rfl, by rw [hd]; rfl, rfl⟩
  | received m hp => exact h.received hp m
  | drained hp => exact h.drained hp
  | receiveFailed e hp => exact h.receiveFailed hp e
  | dropped m e hp unrouted => exact h.dropped hp unrouted
  | resolved m e hp routed => exact h.resolved hp routed
  | absent m hp => exact h.absent hp
  | unreadable m e hp => exact h.unreadable hp e
  | forwarded m hp => exact h.forwarded hp
  | turned m t rest hp => exact h.turned hp
  | reached m t rest hp => exact h.reached hp
  | unreached m t rest e hp => exact h.unreached hp e
  | delivered m t rest hp => exact h.delivered hp
  | refused m t rest e hp => exact h.refused hp e

/-- **A run that has ended was a course.** -/
theorem Trail.ended {l : Loop} {r : Run} {deeds : List Deed} (h : Trail l r deeds)
    {outcome : Except LoopError LoopStats} (out : r.outcome? = some outcome) :
    ∃ course : Course, r.loop = { l.withStats (l.stats.course course) with state := .stopped } ∧
      deeds = course.deeds l.source ∧ outcome = course.outcome l.source l.stats := by
  unfold Run.outcome? at out
  cases hp : r.phase with
  | finished result =>
    rw [hp] at out
    cases out
    exact h.stands hp
  | _ =>
    rw [hp] at out
    cases out

/-! ## Runs that have begun -/

/-- What a run has done of a round that is not complete. -/
inductive Part where
  | nothing
  /-- The message is taken. -/
  | taken (m : Message)
  /-- Targets were tried, and one more may be open. -/
  | underway (m : Message) (e : Entry) (attempts : List Attempt) (opened : Option ChannelKey)
    (begun : attempts.map Attempt.target ++ opened.toList <+: (e.targets m).toList)

def Part.deeds (source : ChannelKey) : Part → List Deed
  | nothing => []
  | taken m => [.received source (.ok (some m))]
  | underway m e attempts opened _ =>
    Loop.underway source m e attempts ++ opened.toList.map fun t => .opened t (.ok ())

/-- **What a run has done at any moment**: nothing yet, all of a course, or some rounds of one and
a part of the next. -/
inductive Begun (source : ChannelKey) : List Deed → Prop
  | unstarted : Begun source []
  | going (rounds : List Round) (part : Part) :
    Begun source (trailed source rounds ++ part.deeds source)
  | ended (c : Course) : Begun source (c.deeds source)

/-- **A run is at every moment a part of a course.** -/
theorem Trail.begun {l : Loop} {r : Run} {deeds : List Deed} (h : Trail l r deeds) :
    Begun l.source deeds := by
  cases hp : r.phase with
  | ready | opening =>
    rw [(h.stands hp).2]
    exact .unstarted
  | receiving =>
    obtain ⟨rounds, -, rfl⟩ := h.stands hp
    have begun : Begun l.source (trailed l.source rounds ++ []) := .going rounds .nothing
    rw [List.append_nil] at begun
    exact begun
  | reading m =>
    obtain ⟨rounds, -, rfl⟩ := h.stands hp
    exact .going rounds (.taken m)
  | forwarding m targets =>
    obtain ⟨rounds, e, attempts, -, rfl, hall, -⟩ := h.stands hp
    have begun : Begun l.source
        (trailed l.source rounds ++ (Loop.underway l.source m e attempts ++ [])) :=
      .going rounds
        (.underway m e attempts none ⟨targets, by rw [Option.toList_none, List.append_nil, hall]⟩)
    rw [List.append_nil] at begun
    exact begun
  | reaching m t rest =>
    obtain ⟨rounds, e, attempts, -, rfl, hall⟩ := h.stands hp
    have begun : Begun l.source
        (trailed l.source rounds ++ (Loop.underway l.source m e attempts ++ [])) :=
      .going rounds
        (.underway m e attempts none ⟨t :: rest, by rw [Option.toList_none, List.append_nil, hall]⟩)
    rw [List.append_nil] at begun
    exact begun
  | sending m t rest =>
    obtain ⟨rounds, e, attempts, -, rfl, hall⟩ := h.stands hp
    rw [List.append_assoc]
    refine .going rounds (.underway m e attempts (some t) ⟨rest, ?_⟩)
    rw [← hall, List.append_assoc]
    rfl
  | finished outcome =>
    obtain ⟨c, -, rfl, -⟩ := h.stands hp
    exact .ended c

end ChannelRouting.Loop
