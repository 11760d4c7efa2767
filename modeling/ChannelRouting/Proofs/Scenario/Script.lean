import ChannelRouting.Proofs.Scenario.Foreground
import ChannelRouting.Scenario.Channels

/-!
# The journal under a script

A script makes its calls one after another (`playAll`): it opens and releases handles, sends and
receives through them in the foreground, marks channels, and enqueues on queues, drains and closes
them from the side. While nothing else goes on in its world, each step answers as a call of a session
and leaves the recording of the session after it (`plays_attend`), so a whole script plays its
session (`playAll_made`). What is shown of sessions is thus what a script can observe.

`journal_is_faithful` puts the two together. What a channel accepted is told from its queue and not
from the answers, so the journal is held against a record that it has no part in. A call that would
never return is given up, and has no answer. Left out are calls in the background and on threads,
which do not come one after another, and waits longer than the foreground has patience for.
-/

namespace ChannelRouting

namespace Scenario

open Recording (Answer)

variable {w : World}

/-! ## Steps on channels -/

theorem run_useTransport {α : Type} (use : Transport → α × Transport) (w : World) :
    useTransport use w = ((use w.recording.transport).1, { w with recording :=
      { w.recording with transport := (use w.recording.transport).2 } }) := rfl

namespace Idle

theorem openChannel (idle : Idle w) (key : ChannelKey) : openChannel key w =
    (some (.ok (w.recording.open_ key).1), { w with recording := (w.recording.open_ key).2 }) := by
  unfold Scenario.openChannel
  simp only [run_bind, idle.strikeChannel]
  rfl

theorem failSendsTo (idle : Idle w) (key : ChannelKey) :
    failSendsTo key w = (.ok (), { w with recording := w.recording.failSendsTo key }) := by
  unfold Scenario.failSendsTo
  simp only [run_bind, run_get, run_set, idle.records, Bool.not_true, Bool.false_eq_true, if_false]
  rfl

/-- The world after a change of its transport. -/
theorem onTransport (idle : Idle w) (t : Transport) :
    Idle { w with recording := { w.recording with transport := t } } :=
  idle.again { w.recording with transport := t } w.woken

theorem enqueue (idle : Idle w) (key : ChannelKey) (m : Message) : enqueue key m w =
    ((w.recording.transport.enqueue key m).1, { w with recording :=
      { w.recording with transport := (w.recording.transport.enqueue key m).2 } }) := by
  unfold Scenario.enqueue
  simp only [run_bind, run_useTransport]
  cases (w.recording.transport.enqueue key m).1 with
  | error e => rfl
  | ok => simp only [run_bind, (idle.onTransport _).notifyOne]; rfl

theorem drain (idle : Idle w) (key : ChannelKey) : drain key w =
    ((w.recording.transport.drain key).1, { w with recording :=
      { w.recording with transport := (w.recording.transport.drain key).2 } }) := by
  unfold Scenario.drain
  simp only [run_bind, run_useTransport, (idle.onTransport _).notifyAll]
  rfl

theorem closeChannel (idle : Idle w) (key : ChannelKey) : closeChannel key w =
    ((), { w with recording :=
      { w.recording with transport := w.recording.transport.close key } }) := by
  unfold Scenario.closeChannel
  simp only [run_bind, run_useTransport, (idle.onTransport _).notifyAll]

end Idle

/-! ## Scripts -/

/-- What a send answered. -/
def Reply.sent? : Reply → Option (Except TransportError Unit)
  | .sent _ result => some result
  | _ => none

/-- What a receive answered that no fault has struck. -/
def Reply.received? : Reply → Option (Option Message)
  | .received (.ok answer) => some answer
  | _ => none

/-- The answer that a reply brings back. -/
theorem bind_sent? (result : Option (Except TransportError Unit)) (id : Uuid) :
    (result.map (Reply.sent id)).bind Reply.sent? = result := by
  cases result <;> rfl

theorem bind_received? (answer : Option (Option Message)) :
    (answer.map fun a => Reply.received (.ok a)).bind Reply.received? = answer := by
  cases answer <;> rfl

/-- What is done with a handle of a script; nothing if there is no such handle. -/
def withHandle (handles : List Handle) (i : Nat)
    (use : Handle → Step (Option Answer × List Handle)) : Step (Option Answer × List Handle) :=
  match handles[i]? with
  | none => return (none, handles)
  | some h => use h

/-- One call of a script that has these handles: its answer, and the handles after it. -/
def play (handles : List Handle) : Recording.Call → Step (Option Answer × List Handle)
  | .open_ key => do
    match ← openChannel key with
    | some (.ok h) => return (some (.plain (.opened key)), handles ++ [h])
    | _ => return (none, handles)
  | .release i => withHandle handles i fun h => do
    let h' ← releaseHandle h
    return (some (.plain (.released h.key)), handles.set i h')
  | .send i m wait => withHandle handles i fun h => do
    let outcome ← inForeground (.send i h.key m wait)
    return ((outcome.reply?.bind Reply.sent?).map (.sent h.key m), handles)
  | .receive i wait => withHandle handles i fun h => do
    let outcome ← inForeground (.receive i h.key wait)
    return ((outcome.reply?.bind Reply.received?).map fun answer =>
      .plain (.received h.key answer), handles)
  | .failSendsTo key => do
    let result ← failSendsTo key
    return (result.toOption.map fun _ => .marked key, handles)
  | .enqueue key m => do
    let result ← enqueue key m
    return (some (.plain (.offered key m result)), handles)
  | .drain key => do
    let taken ← drain key
    return (some (.plain (.drained key taken)), handles)
  | .close key => do
    closeChannel key
    return (some (.plain (.closed key)), handles)

/-- A script: the answers of its calls, and the handles after them. -/
def playAll (handles : List Handle) :
    List Recording.Call → Step (List (Option Answer) × List Handle)
  | [] => return ([], handles)
  | c :: rest => do
    let (answer, handles) ← play handles c
    let (answers, handles) ← playAll handles rest
    return (answer :: answers, handles)

/-! ## A script and its session -/

/-- A call that the foreground has the patience for. -/
def PatientCall : Recording.Call → Prop
  | .send _ _ wait | .receive _ wait => Patient wait
  | _ => True

instance : DecidablePred PatientCall
  | .send _ _ wait | .receive _ wait => inferInstanceAs (Decidable (Patient wait))
  | .open_ _ | .release _ | .failSendsTo _ | .enqueue _ _ | .drain _ | .close _ =>
    inferInstanceAs (Decidable True)

/-- A world in which nothing but a session goes on. -/
structure Holds (w : World) (s : Recording.Session) : Prop where
  idle : Idle w
  recording : w.recording = s.recording

/-- A look into the journal. -/
theorem Holds.sentTo {s : Recording.Session} (holds : Holds w s) (key : ChannelKey) :
    sentTo key w = (.ok (s.recording.sentTo key), w) := by
  unfold Scenario.sentTo
  simp only [run_bind, run_get, holds.idle.records, if_true, holds.recording]
  rfl

/-- A step that answers as a call of a session does, and leaves a world that holds the session
after it. -/
def Plays (step : Step (Option Answer × List Handle)) (w : World)
    (x : Option Answer × Recording.Session) : Prop :=
  ∃ w', step w = ((x.1, x.2.handles), w') ∧ Holds w' x.2

theorem plays_withHandle {s : Recording.Session} {i : Nat}
    {use : Handle → Step (Option Answer × List Handle)}
    {call : Handle → Option Answer × Recording.Session} (holds : Holds w s)
    (found : ∀ h, Plays (use h) w (call h)) :
    Plays (withHandle s.handles i use) w (s.through i call) := by
  cases at_ : s.handles[i]? with
  | none =>
    rw [Recording.through_none at_]
    simp only [withHandle, at_]
    exact ⟨w, rfl, holds⟩
  | some h =>
    rw [Recording.through_some at_]
    simp only [withHandle, at_]
    exact found h

/-- **A step of a script is one call of its session.** -/
theorem plays_attend {s : Recording.Session} {c : Recording.Call} (holds : Holds w s)
    (clock : foregroundLimit ≤ s.recording.transport.reach) (patient : PatientCall c) :
    Plays (play s.handles c) w (s.attend c) := by
  obtain ⟨recording, handles⟩ := s
  obtain ⟨idle, rfl⟩ := holds
  cases c with
  | open_ key =>
    refine ⟨_, ?_, idle.again (w.recording.open_ key).2 w.woken, rfl⟩
    unfold play
    simp only [run_bind, idle.openChannel]
    rfl
  | release i =>
    refine plays_withHandle ⟨idle, rfl⟩ fun h => ?_
    exact ⟨_, rfl, idle.again (w.recording.release h).2 w.woken, rfl⟩
  | send i m wait =>
    refine plays_withHandle ⟨idle, rfl⟩ fun h => ?_
    obtain ⟨outcome, w', run, reply, idle', recording⟩ := idle.ends_send clock patient i h m
    refine ⟨w', ?_, idle', recording⟩
    simp only [run_bind, run, reply, bind_sent?]
    rfl
  | receive i wait =>
    refine plays_withHandle ⟨idle, rfl⟩ fun h => ?_
    obtain ⟨outcome, w', run, reply, idle', recording⟩ := idle.ends_receive clock patient i h
    refine ⟨w', ?_, idle', recording⟩
    simp only [run_bind, run, reply, bind_received?]
    rfl
  | failSendsTo key =>
    refine ⟨_, ?_, idle.again (w.recording.failSendsTo key) w.woken, rfl⟩
    unfold play
    simp only [run_bind, idle.failSendsTo]
    rfl
  | enqueue key m =>
    refine ⟨_, ?_, idle.onTransport (w.recording.transport.enqueue key m).2, rfl⟩
    unfold play
    simp only [run_bind, idle.enqueue]
    rfl
  | drain key =>
    refine ⟨_, ?_, idle.onTransport (w.recording.transport.drain key).2, rfl⟩
    unfold play
    simp only [run_bind, idle.drain]
    rfl
  | close key =>
    refine ⟨_, ?_, idle.onTransport (w.recording.transport.close key), rfl⟩
    unfold play
    simp only [run_bind, idle.closeChannel]
    rfl

/-- **A script plays its session**, and shows its answers. -/
theorem playAll_made {s : Recording.Session} {calls : List Recording.Call} (holds : Holds w s)
    (clock : foregroundLimit ≤ s.recording.transport.reach)
    (patient : ∀ c ∈ calls, PatientCall c) :
    ∃ w', playAll s.handles calls w =
        (((s.made calls).map Recording.Made.answer, (s.after calls).handles), w') ∧
      Holds w' (s.after calls) := by
  induction calls generalizing w s with
  | nil => exact ⟨w, rfl, holds⟩
  | cons c rest ih =>
    have later : ∀ c' ∈ rest, PatientCall c' := fun c' h => patient c' (List.mem_cons_of_mem c h)
    obtain ⟨w₁, played, holds₁⟩ := plays_attend holds clock (patient c List.mem_cons_self)
    have clock₁ := (Recording.dealt_attend s c).reach_eq ▸ clock
    obtain ⟨w', rested, holds'⟩ := ih holds₁ clock₁ later
    refine ⟨w', ?_, holds'⟩
    unfold playAll
    simp only [run_bind, played, rested]
    rfl

end Scenario

/-! ## The journal as an oracle -/

namespace Recording

/-- **What the journal of a transport is worth** after some calls that began with this session. -/
structure Faithful (start : Session) (calls : List Call) : Prop where
  /-- The journal of a channel has the messages whose sends through its handles returned with
  success, in order. -/
  sent : ∀ key, (start.after calls).recording.sentTo key = sentThrough key (start.made calls)
  /-- What the queue of a channel ever accepted are these messages and the enqueued ones, each in
  their order. -/
  accepted : ∀ key, Interleaved ((start.after calls).recording.sentTo key)
    (enqueuedOn key (start.made calls)) (accepted key (start.made calls))
  /-- It has handed them out in this order, up to those that it holds. -/
  held : ∀ key, Recording.accepted key (start.made calls) =
    handedOut key (start.made calls) ++ (start.after calls).recording.transport.messages key
  /-- A send that fails, or never returns, changes nothing. -/
  failed : ∀ c, Fruitless ((start.after calls).attend c).1 →
    ((start.after calls).attend c).2 = start.after calls
  /-- The handles are those that were opened, before a channel was marked or after it. -/
  handles : (start.after calls).handles.map Handle.key = calls.flatMap Call.opened
  /-- Through any of them a send to a channel that was marked fails with the injected error, however
  the channel is. -/
  marked : ∀ i h, (start.after calls).handles[i]? = some h → .failSendsTo h.key ∈ calls →
    ∀ m wait, ((start.after calls).attend (.send i m wait)).1 =
      some (.sent h.key m (.error (injected h.key)))
  /-- A send to a channel that was not marked answers as its queue does. -/
  unmarked : ∀ i h, (start.after calls).handles[i]? = some h → .failSendsTo h.key ∉ calls →
    ∀ m wait, ((start.after calls).attend (.send i m wait)).1 =
      ((start.after calls).recording.transport.sendAlone h.key m wait).1.map (.sent h.key m)
  /-- A send answers the same as if other channels had not been marked. -/
  unaffected : ∀ key i h, (start.after calls).handles[i]? = some h → h.key ≠ key →
    ∀ m wait, ((start.after calls).attend (.send i m wait)).1 =
      ((start.after (unmarking key calls)).attend (.send i m wait)).1
  /-- So do the journal and the queue of a channel. -/
  apart : ∀ key other, other ≠ key →
    (start.after calls).recording.sentTo other =
        (start.after (unmarking key calls)).recording.sentTo other ∧
      (start.after calls).recording.transport.queue other =
        (start.after (unmarking key calls)).recording.transport.queue other

/-- **The journal of a transport that nobody has used before is faithful.** -/
theorem faithful_bounded (capacity : Option Nat) (calls : List Call) :
    Faithful (.bounded capacity) calls := by
  let start := Session.bounded capacity
  have sent (key : ChannelKey) :
      (start.after calls).recording.sentTo key = sentThrough key (start.made calls) :=
    sentTo_after start calls key
  have marks (key : ChannelKey) :
      key ∈ (start.after calls).recording.journal.failing ↔ .failSendsTo key ∈ calls :=
    (marked_after start calls key).trans (or_iff_right List.not_mem_nil)
  have alike {key other : ChannelKey} (apart : other ≠ key) :
      (start.after calls).Alike other (start.after (unmarking key calls)) :=
    Session.Alike.unmarking apart ⟨rfl, .refl other start.recording⟩ calls
  refine ⟨sent, fun key => ?_, conserved_made start calls, fun c => attend_fruitless,
    handles_after start calls, fun i h at_ marked => ?_, fun i h at_ unmarked => ?_,
    fun key i h at_ apart m wait => ?_, fun key other apart => ?_⟩
  · rw [sent key]
    exact interleaved_made start calls key
  · exact attend_marked at_ ((marks h.key).mpr marked)
  · exact attend_unmarked at_ (mt (marks h.key).mp unmarked)
  · exact (alike apart).answer_eq at_ m wait
  · have same := (alike apart).recording
    exact ⟨same.sentTo, same.transport.queue other rfl⟩

end Recording

/-- **The journal is a faithful oracle.** Whatever is called one after another on a recording
transport, its clones and its queues, the journal is `Faithful`; and a scenario in which nothing
else goes on answers these calls in this way, and shows this journal. -/
theorem journal_is_faithful (capacity : Option Nat) (calls : List Recording.Call) :
    Recording.Faithful (.bounded capacity) calls ∧
      ∀ w, Scenario.Holds w (.bounded capacity) → (∀ c ∈ calls, Scenario.PatientCall c) →
        ∃ w', Scenario.playAll [] calls w =
            ((((Recording.Session.bounded capacity).made calls).map Recording.Made.answer,
              ((Recording.Session.bounded capacity).after calls).handles), w') ∧
          Scenario.Holds w' ((Recording.Session.bounded capacity).after calls) ∧
          ∀ key, Scenario.sentTo key w' =
            (.ok (Recording.sentThrough key ((Recording.Session.bounded capacity).made calls)),
              w') := by
  have faithful := Recording.faithful_bounded capacity calls
  refine ⟨faithful, fun w holds patient => ?_⟩
  have clock : Scenario.foregroundLimit ≤ ({} : Transport).reach := by decide
  obtain ⟨w', played, holds'⟩ := Scenario.playAll_made holds clock patient
  refine ⟨w', played, holds', fun key => ?_⟩
  rw [holds'.sentTo, faithful.sent]

namespace Recording

/-- A send that is accepted, one that finds its channel full, and one after the channel was marked
and closed, all through a handle that was opened before; and a send to another channel. -/
def markedLate : List Call :=
  let first := Message.new (.ofNat 1) []
  let second := Message.new (.ofNat 2) []
  [.open_ ⟨"a"⟩, .open_ ⟨"b"⟩, .send 0 first .immediate, .enqueue ⟨"a"⟩ second,
    .send 0 second .immediate, .failSendsTo ⟨"a"⟩, .close ⟨"a"⟩, .send 0 second .indefinite,
    .send 1 second .indefinite]

end Recording

/-- The journal of the first channel has one message of the three, its queue the enqueued one too;
and the script shows that. -/
theorem journal_is_faithful_marked :
    ((Recording.Session.bounded (some 2)).after Recording.markedLate).recording.transport.queue
        ⟨"a"⟩ = { messages := [.new (.ofNat 1) [], .new (.ofNat 2) []], closed := true } ∧
      ((Recording.Session.bounded (some 2)).after Recording.markedLate).recording.sentTo ⟨"a"⟩ =
        [.new (.ofNat 1) []] ∧
      (∀ m wait, (((Recording.Session.bounded (some 2)).after Recording.markedLate).attend
          (.send 0 m wait)).1 =
        some (.sent ⟨"a"⟩ m (.error (.io "injected failure on `a`")))) ∧
      ∃ w', Scenario.playAll [] Recording.markedLate
          { records := true, recording := { transport := { capacity := some 2 } } } =
        ((((Recording.Session.bounded (some 2)).made Recording.markedLate).map
          Recording.Made.answer, [{ key := ⟨"a"⟩ }, { key := ⟨"b"⟩ }]), w') ∧
        Scenario.sentTo ⟨"b"⟩ w' = (.ok [.new (.ofNat 2) []], w') := by
  obtain ⟨faithful, played⟩ := journal_is_faithful (some 2) Recording.markedLate
  have holds : Scenario.Holds
      { records := true, recording := { transport := { capacity := some 2 } } }
      (.bounded (some 2)) := ⟨⟨rfl, rfl, rfl, rfl, rfl⟩, rfl⟩
  obtain ⟨w', answers, -, shown⟩ := played _ holds (by decide)
  have handles : ((Recording.Session.bounded (some 2)).after Recording.markedLate).handles =
      [{ key := ⟨"a"⟩ }, { key := ⟨"b"⟩ }] := by decide +kernel
  have other : Recording.sentThrough ⟨"b"⟩
      ((Recording.Session.bounded (some 2)).made Recording.markedLate) = [.new (.ofNat 2) []] := by
    decide +kernel
  refine ⟨by decide +kernel, by decide +kernel, ?_, w', ?_, ?_⟩
  · refine faithful.marked 0 { key := ⟨"a"⟩ } ?_ (List.mem_of_getElem? (i := 5) rfl)
    rw [handles]
    rfl
  · rw [answers, handles]
  · rw [shown, other]

end ChannelRouting
