import ChannelRouting.Proofs.Loop.Holding
import ChannelRouting.Proofs.Transport.Ledger
import ChannelRouting.Scenario.Schedule

/-!
# Handles in a scenario

The loops of a scenario run over a recording transport, on which sends to marked channels fail, and
over a store whose reads fail on demand; they wait for one another and for a clock. None of that
has to do with handles: most steps of a scenario leave the counters alone (`Quiet`), and its loops
open and release as on any other transport (`counts_loopAccess`).

`handles_never_leak` sums up what is known of handles: whatever becomes of a run, over the transport
of a node or the recording transport of a scenario, it gives back what it has opened; and of the
handles that anybody opens those are open that were not released.
-/

namespace ChannelRouting.Scenario

open Loop (Gauge)

/-- What the transport of a world tells of its handles. Every channel can be opened while no fault
of an opening is queued. -/
def gauge : Gauge World where
  live w := w.recording.transport.openHandles
  made w := some w.recording.journal.opened
  sound w := ∀ f ∈ w.channelFaults, f.call ≠ .opening

/-- Whatever leaves the transport alone, and queues no fault of an opening. -/
theorem still_of_sound {w w' : World} (same : w'.recording = w.recording)
    (sound : gauge.sound w → gauge.sound w') : gauge.Still w w' :=
  ⟨congrArg (fun r : Recording => r.transport.openHandles) same,
    congrArg (fun r : Recording => some r.journal.opened) same, sound⟩

/-- A change of the world elsewhere. -/
theorem still_of_eq {w w' : World} (same : w'.recording = w.recording)
    (faults : w'.channelFaults = w.channelFaults) : gauge.Still w w' := by
  refine still_of_sound same fun sound => ?_
  show ∀ f ∈ w'.channelFaults, f.call ≠ .opening
  rwa [faults]

/-! ## Faults -/

/-- A fault that is left over is one that was queued, up to its count. -/
theorem countDown_left {F : Type} {isFor : F → Bool} {after : F → Nat} {later : F → F} {fs : List F}
    {f : F} (h : f ∈ (countDown isFor after later fs).2) : ∃ g ∈ fs, f = g ∨ f = later g := by
  induction fs with
  | nil => cases h
  | cons g rest ih =>
    rw [countDown] at h
    split at h
    · split at h
      · exact ⟨f, List.mem_cons_of_mem g h, .inl rfl⟩
      · rcases List.mem_cons.mp h with rfl | h
        · exact ⟨g, List.mem_cons_self, .inr rfl⟩
        · exact ⟨f, List.mem_cons_of_mem g h, .inl rfl⟩
    · rcases List.mem_cons.mp h with rfl | h
      · exact ⟨f, List.mem_cons_self, .inl rfl⟩
      · obtain ⟨g', hg', same⟩ := ih h
        exact ⟨g', List.mem_cons_of_mem g hg', same⟩

/-- Faults that are for other calls do not strike. -/
theorem countDown_other {F : Type} {isFor : F → Bool} {after : F → Nat} {later : F → F}
    {fs : List F} (other : ∀ f ∈ fs, isFor f = false) : countDown isFor after later fs = (none, fs) := by
  induction fs with
  | nil => rfl
  | cons g rest ih =>
    rw [countDown, if_neg (Bool.eq_false_iff.mp (other g List.mem_cons_self)),
      ih fun f hf => other f (List.mem_cons_of_mem g hf)]

/-! ## Steps -/

/-- **A step that neither opens nor releases.** -/
def Quiet {α : Type} (x : Step α) : Prop := ∀ w, gauge.Still w (x w).2

namespace Quiet

variable {α β : Type} {x : Step α} {f : α → Step β} {w w' : World}

theorem pure (v : α) : Quiet (Pure.pure v) := fun w => .refl gauge w

theorem bind (first : Quiet x) (next : ∀ v, Quiet (f v)) : Quiet (x >>= f) :=
  fun w => (first w).trans (next (x w).1 (x w).2)

theorem ite {c : Prop} [Decidable c] {y : Step α} (yes : Quiet x) (no : Quiet y) :
    Quiet (if c then x else y) := by
  split
  · exact yes
  · exact no

/-- A step that looks at the world first. -/
theorem of_get {f : World → Step α} (quiet : ∀ w, gauge.Still w (f w w).2) :
    Quiet (get >>= f) := quiet

/-- What goes on quietly after a change elsewhere. -/
theorem after_set (change : gauge.Still w w') (quiet : Quiet x) :
    gauge.Still w ((set w' >>= fun _ => x) w).2 := change.trans (quiet w')

theorem modify {g : World → World} (change : ∀ w, gauge.Still w (g w)) : Quiet (modify g) := change

theorem emit (e : Event) : Quiet (emit e) := by
  refine modify fun w => ?_
  dsimp only
  repeat' split
  all_goals exact still_of_eq rfl rfl

theorem wake (a : Actor) : Quiet (wake a) := by
  refine modify fun w => ?_
  repeat' split
  all_goals exact still_of_eq rfl rfl

theorem unregister (a : Actor) : Quiet (unregister a) := modify fun _ => still_of_eq rfl rfl

theorem register (x : Waiter) : Quiet (register x) := modify fun _ => still_of_eq rfl rfl

theorem notifyOne (key : ChannelKey) (side : Side) : Quiet (notifyOne key side) := by
  refine of_get fun w => ?_
  generalize w.waiters.find? _ = found
  cases found with
  | none => exact .refl gauge w
  | some x => exact after_set (still_of_eq rfl rfl) (wake x.actor)

theorem strikeChannel (call : ChannelCall) (key : ChannelKey) : Quiet (strikeChannel call key) := by
  intro w
  rcases counted : countDown (fun f : ChannelFault => f.call = call && f.key = key)
    ChannelFault.after (fun f => { f with after := f.after - 1 })
    w.channelFaults with ⟨struck, faults⟩
  have sound : gauge.sound w → ∀ f ∈ faults, f.call ≠ .opening := by
    intro sound f hf
    have left : f ∈ (countDown (fun f : ChannelFault => f.call = call && f.key = key)
        ChannelFault.after (fun f => { f with after := f.after - 1 }) w.channelFaults).2 := by
      rw [counted]
      exact hf
    obtain ⟨g, queued, same | same⟩ := countDown_left left <;>
      rw [same] <;> exact sound g queued
  simp only [Scenario.strikeChannel, modifyGet, MonadStateOf.modifyGet, StateT.modifyGet, counted]
  rcases struck with _ | ⟨_, _, _, _ | e⟩
  all_goals exact still_of_sound rfl sound

theorem strikeStore (call : StoreCall) : Quiet (strikeStore call) :=
  fun _ => still_of_eq rfl rfl

theorem attemptReceive (a : Actor) (key : ChannelKey) (deadline : Option Nat) :
    Quiet (attemptReceive a key deadline) := by
  refine of_get fun w => ?_
  have live := w.recording.transport.openHandles_tryReceive key
  rcases called : w.recording.transport.tryReceive key with ⟨result, t⟩
  rw [called] at live
  have change : gauge.Still w { w with recording := { w.recording with transport := t } } :=
    ⟨live, rfl, fun sound => sound⟩
  rcases result with _ | _ | m
  · exact after_set change (ite (pure _) (bind (register _) fun _ => pure _))
  · exact after_set change (pure _)
  · exact after_set change (bind (notifyOne key .writing) fun _ => pure _)

theorem attemptSend (a : Actor) (key : ChannelKey) (m : Message) (wait : WaitPolicy)
    (deadline : Option Nat) : Quiet (attemptSend a key m wait deadline) := by
  refine of_get fun w => ?_
  obtain ⟨live, made⟩ := w.recording.trySend_handles key m
  rcases called : w.recording.trySend key m with ⟨result, r⟩
  rw [called] at live made
  have change : gauge.Still w { w with recording := r } :=
    ⟨live, congrArg some made, fun sound => sound⟩
  rcases result with _ | e | _
  · exact after_set change (ite (pure _) (bind (register _) fun _ => pure _))
  · exact after_set change (pure _)
  · exact after_set change (bind (notifyOne key .reading) fun _ => pure _)

theorem receive (a : Actor) (key : ChannelKey) (wait : WaitPolicy) :
    Quiet (receive a key wait) := by
  refine of_get fun w => ?_
  rcases waiter? w a with _ | x
  · refine bind (strikeChannel .receiving key) (fun struck => ?_) w
    cases struck with
    | passes => exact attemptReceive a key _
    | fails e => exact pure _
    | breaks => exact pure _
  · have again := bind (unregister a) fun _ => attemptReceive a key x.deadline
    exact ite again (ite (bind (unregister a) fun _ => pure _) (pure _)) w

theorem send (a : Actor) (key : ChannelKey) (m : Message) (wait : WaitPolicy) :
    Quiet (send a key m wait) := by
  refine of_get fun w => ?_
  rcases waiter? w a with _ | x
  · refine bind (strikeChannel .sending key) (fun struck => ?_) w
    cases struck with
    | passes =>
      dsimp only
      cases w.recording.injected? key with
      | some e => exact pure _
      | none => exact attemptSend a key m wait _
    | fails e => exact pure _
    | breaks => exact pure _
  · have again := bind (unregister a) fun _ => attemptSend a key m wait x.deadline
    exact ite again (ite (bind (unregister a) fun _ => pure _) (pure _)) w

theorem readEntry (key : ChannelKey) : Quiet (readEntry key) := by
  refine bind (strikeStore .get) fun struck => ?_
  cases struck with
  | some e => exact pure _
  | none => exact of_get fun w => .refl gauge w

end Quiet

/-! ## Loops -/

/-- A channel is opened unless a fault is queued for it. -/
theorem openChannel_eq (key : ChannelKey) {w : World} (sound : gauge.sound w) :
    openChannel key w = (some (.ok (w.recording.open_ key).1),
      { w with recording := (w.recording.open_ key).2 }) := by
  have none : countDown (fun f : ChannelFault => f.call = .opening && f.key = key)
      ChannelFault.after (fun f => { f with after := f.after - 1 }) w.channelFaults =
        (none, w.channelFaults) := by
    refine countDown_other fun f hf => ?_
    simp [sound f hf]
  have passes : strikeChannel .opening key w = (.passes, w) := by
    simp only [strikeChannel, modifyGet, MonadStateOf.modifyGet, StateT.modifyGet, none]
    rfl
  show (strikeChannel .opening key >>= _) w = _
  simp only [bind, StateT.bind, passes]
  rfl

/-- **A loop of a scenario opens and releases on its recording transport.** -/
theorem counts_loopAccess (a : Actor) : (loopAccess a).Counts gauge where
  opened key w sound := by
    have opened : (loopAccess a).openChannel key w =
        (some (.ok ()), { w with recording := (w.recording.open_ key).2 }) := by
      show (openChannel key >>= _) w = _
      simp only [bind, StateT.bind, openChannel_eq key sound]
      rfl
    rw [opened]
    exact ⟨rfl, rfl, rfl, sound⟩
  released key w := ⟨rfl, rfl, fun sound => sound⟩
  received key wait := Quiet.receive a key wait
  read key := Quiet.readEntry key
  sent key m wait := Quiet.send a key m wait
  emitted := Quiet.emit

end ChannelRouting.Scenario

/-! ## Altogether -/

namespace ChannelRouting

open Transport (releasedBy Bookable)

/-- **Handles never leak.** A run over the transport of a node, whether it waits for others or is
alone, and a run over the recording transport of a scenario, each gives back what it has opened;
the others may do what they like but open or release. A store may fail to read at any time.

Of the handles that anybody opens, on a transport or on a recording one, those are open that were
not released, however often the others were. -/
theorem handles_never_leak :
    (∀ (down : Node → Option StoreError) (others : Node → Node → Prop),
      (∀ n n', others n n' → n'.transport.openHandles = n.transport.openHandles) →
        (Node.loopAccess.outage down).Balances others Node.gauge ∧
          (Node.soleLoopAccess.outage down).Balances others Node.gauge) ∧
    (∀ (a : Scenario.Actor) (others : Scenario.World → Scenario.World → Prop),
      (∀ w w', others w w' → Scenario.gauge.Still w w') →
        (Scenario.loopAccess a).Balances others Scenario.gauge) ∧
    (∀ (capacity : Option Nat) (calls : List Transport.Call),
      (Bookable 0 (calls.map Transport.Call.posting) →
        ∃ made s, (Transport.Session.fresh capacity).run calls = some (made, s)) ∧
      ∀ made s, (Transport.Session.fresh capacity).run calls = some (made, s) →
        s.transport.openHandles + (releasedBy (calls.map Transport.Call.posting)).card =
          (calls.map Transport.Call.posting).count .opening) ∧
    (∀ calls : List Recording.Call,
      (Bookable 0 (calls.map Recording.Call.posting) →
        ∃ s, Recording.Session.fresh.run calls = some s) ∧
      ∀ s, Recording.Session.fresh.run calls = some s →
        s.recording.transport.openHandles + (releasedBy (calls.map Recording.Call.posting)).card =
            (calls.map Recording.Call.posting).count .opening ∧
          s.recording.journal.opened = (calls.map Recording.Call.posting).count .opening) := by
  refine ⟨fun down others apart => ?_, fun a others apart => ?_, fun capacity calls => ?_,
    fun calls => ?_⟩
  · have still (n n' : Node) (h : others n n') : Node.gauge.Still n n' :=
      ⟨apart n n' h, rfl, fun sound => sound⟩
    exact ⟨Loop.balances_of_counts (Node.counts_loopAccess.outage down) still,
      Loop.balances_of_counts (Node.counts_soleLoopAccess.outage down) still⟩
  · exact Loop.balances_of_counts (Scenario.counts_loopAccess a) apart
  · exact ⟨Transport.session_returns capacity, fun made s ran => Transport.openHandles_session ran⟩
  · exact ⟨Recording.session_returns, fun s ran => Recording.openHandles_session ran⟩

namespace Scenario

/-- A closed channel with two messages that routes to a channel marked as failing, and to one that
is full after the first of them. -/
def marked : World :=
  let route (name : String) : Route := { target := ⟨name⟩, keys := .ofList ["k"] }
  let queued : Queue := { messages := [.new (.ofNat 1) [], .new (.ofNat 2) []], closed := true }
  let transport : Transport := Transport.withQueue { capacity := some 1 } ⟨"s"⟩ queued
  { store := .memory (Table.putIfAbsent .empty
      { channel := ⟨"s"⟩, strategy := some .fanout, routes := [route "a", route "b"] }).2
    recording := Recording.failSendsTo { transport := transport } ⟨"a"⟩ }

def markedLoop : Loop := { id := 0, source := ⟨"s"⟩ }

/-- Its loop after some steps. -/
def markedRun (fuel : Nat) : Run × World × List Loop.Deed :=
  Run.advance (loopAccess .foreground).traced fuel (markedLoop.start "main") (marked, [])

theorem driven_marked (fuel : Nat) : Loop.Driven (loopAccess .foreground) (fun _ _ => False)
    (markedLoop.start "main") marked (markedRun fuel).1 (markedRun fuel).2.1 (markedRun fuel).2.2 :=
  Loop.Driven.start.advance fuel

end Scenario

/-- Five handles are made, for the source and twice for each target, and all are released. -/
theorem handles_never_leak_marked :
    ((Scenario.markedRun 40).1.outcome?.isSome ∧
      (Scenario.markedRun 40).1.loop.stats.sendErrors.length = 3 ∧
      (Scenario.markedRun 40).2.1.recording.journal.opened = 5) ∧
        Loop.GivenBack Scenario.gauge Scenario.markedLoop.source Scenario.marked
          (Scenario.markedRun 40).2.1 (Scenario.markedRun 40).2.2 := by
  have facts : (Scenario.markedRun 40).1.outcome?.isSome ∧
      (Scenario.markedRun 40).1.loop.stats.sendErrors.length = 3 ∧
      (Scenario.markedRun 40).2.1.recording.journal.opened = 5 := by decide +kernel
  have sound : Scenario.gauge.sound Scenario.marked :=
    fun _ queued => absurd queued List.not_mem_nil
  have balances := handles_never_leak.2.1 .foreground (fun _ _ => False) fun _ _ no => no.elim
  obtain ⟨-, givenBack⟩ := balances _ _ _ _ _ _ sound (Scenario.driven_marked 40)
  obtain ⟨outcome, out⟩ := Option.isSome_iff_exists.mp facts.1
  exact ⟨facts, givenBack outcome out⟩

end ChannelRouting
