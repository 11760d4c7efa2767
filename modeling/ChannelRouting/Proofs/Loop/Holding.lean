import ChannelRouting.Node
import ChannelRouting.Proofs.Loop.Calls
import ChannelRouting.Proofs.Transport.Answer
import Mathlib.Algebra.GroupWithZero.Nat

/-!
# The handles a run holds

A run opens its source and then target after target, and releases whatever it has opened. What it
holds can be read off its deeds (`holding`): never more than the source and one target, each of
which is released before anything else is opened or received (`InTurn`). That much is so over any
access (`Driven.inTurn`), since it is about what the run asks for and not about the answers.

A transport counts its handles, and a `Gauge` is what it tells of them. The counter is decremented
by every release, and nothing in it keeps it from going below zero. But it stands at what it was
plus what the run holds, and a run releases only what it holds. So over a transport that counts
(`Access.Counts`) a run leaves as many handles open as it found (`balances_of_counts`).
-/

namespace ChannelRouting.Loop

variable {σ : Type}

/-! ## Holding -/

/-- The handles that are held after a deed, the last that was opened first. -/
def Deed.hold (held : List ChannelKey) : Deed → List ChannelKey
  | opened key (.ok ()) => key :: held
  | released key => held.erase key
  | opened _ (.error _) | received .. | read .. | sent .. => held

/-- What is held after some deeds by one who held nothing. -/
def holding (deeds : List Deed) : List ChannelKey := deeds.foldl Deed.hold []

/-- **A deed in time** finds those handles held that it needs, and no others: a loop opens a target,
receives and reads while it holds its source alone. -/
def Deed.Timely (source : ChannelKey) (held : List ChannelKey) : Deed → Prop
  | opened key _ => held = [] ∧ key = source ∨ held = [source]
  | received key _ | read key _ => held = [source] ∧ key = source
  | sent key _ _ => held = [key, source]
  | released key => held.head? = some key

/-- Deeds each of which comes in time. -/
def InTurn (source : ChannelKey) : List ChannelKey → List Deed → Prop
  | _, [] => True
  | held, d :: rest => d.Timely source held ∧ InTurn source (d.hold held) rest

theorem inTurn_append {source : ChannelKey} {held : List ChannelKey} {d₁ d₂ : List Deed} :
    InTurn source held (d₁ ++ d₂) ↔
      InTurn source held d₁ ∧ InTurn source (d₁.foldl Deed.hold held) d₂ := by
  induction d₁ generalizing held with
  | nil => exact (and_iff_right trivial).symm
  | cons d rest ih => exact (and_congr_right fun _ => ih).trans and_assoc.symm

theorem foldl_hold_eq {deeds : List Deed} (quiet : ∀ d ∈ deeds, ∀ held, d.hold held = held)
    (held : List ChannelKey) : deeds.foldl Deed.hold held = held := by
  induction deeds with
  | nil => rfl
  | cons d rest ih =>
    rw [List.foldl_cons, quiet d List.mem_cons_self]
    exact ih fun d' hd' => quiet d' (List.mem_cons_of_mem d hd')

/-- A run holds two handles at most. -/
theorem length_held_le (r : Run) : r.held.length ≤ 2 := by
  unfold Run.held
  cases r.phase with
  | ready | opening | finished _ => exact Nat.zero_le 2
  | receiving | reading _ | forwarding _ _ | reaching _ _ _ => exact Nat.le_succ 1
  | sending _ _ _ => exact Nat.le_refl 2

/-- **The deeds of a step come in time**, and the run holds what they leave. -/
theorem inTurn_of_move {r r' : Run} {deeds : List Deed} (move : r.Move deeds r') :
    InTurn r.loop.source r.held deeds ∧ deeds.foldl Deed.hold r.held = r'.held := by
  cases move with
  | began hp | opened hp | unopened _ hp | received _ hp | dropped _ _ hp | resolved _ _ hp
  | forwarded _ hp | turned _ _ _ hp | reached _ _ _ hp | unreached _ _ _ _ hp =>
    simp [Run.held, hp, InTurn, Deed.Timely, Deed.hold, Run.into, Run.ended, Run.goOn,
      Run.noteFailure]
  | drained hp | receiveFailed _ hp | absent _ hp | unreadable _ _ hp | delivered _ _ _ hp
  | refused _ _ _ _ hp =>
    simp [Run.held, hp, InTurn, Deed.Timely, Deed.hold, Run.ended, Run.goOn, Run.noteFailure]

/-- What every step of a run keeps holds of its deeds at every moment. -/
theorem Driven.kept {p : Access σ} {others : σ → σ → Prop} {R : σ → List Deed → σ → Prop}
    (law : p.Law R) {r₀ r : Run} {w₀ w : σ} {deeds : List Deed} {P : Run → List Deed → Prop}
    (run : Driven p others r₀ w₀ r w deeds) (start : P r₀ [])
    (move : ∀ r r' deeds new, P r deeds → r.Move new r' → P r' (deeds ++ new)) : P r deeds := by
  induction run with
  | start => exact start
  | step _ stepped ih =>
    obtain ⟨new, rfl, -, moved⟩ := moved law stepped
    exact move _ _ _ _ ih moved
  | wait _ stepped ih =>
    obtain ⟨new, rfl, -, idle⟩ := moved law stepped
    cases idle
    rwa [List.append_nil]
  | others _ _ ih => exact ih

/-- **All deeds of a run come in time**, and it holds what they leave. -/
theorem Driven.inTurn {p : Access σ} {others : σ → σ → Prop} {R : σ → List Deed → σ → Prop}
    (law : p.Law R) {l : Loop} {thread : String} {r : Run} {w₀ w : σ} {deeds : List Deed}
    (run : Driven p others (l.start thread) w₀ r w deeds) :
    InTurn l.source [] deeds ∧ holding deeds = r.held := by
  have kept : r.loop.source = l.source ∧ InTurn l.source [] deeds ∧ holding deeds = r.held := by
    refine run.kept law (P := fun r deeds =>
      r.loop.source = l.source ∧ InTurn l.source [] deeds ∧ holding deeds = r.held) ?_ ?_
    · exact ⟨rfl, trivial, rfl⟩
    · rintro r r' deeds new ⟨source, inTurn, held⟩ move
      obtain ⟨now, left⟩ := inTurn_of_move move
      rw [source, ← held] at now
      refine ⟨?_, inTurn_append.mpr ⟨inTurn, now⟩, ?_⟩
      · exact move.source_eq.trans source
      · rw [holding, List.foldl_append, ← left, ← held]
        rfl
  exact kept.2

/-! ## Opening -/

def Deed.opens : Deed → Bool
  | opened .. => true
  | received .. | read .. | sent .. | released _ => false

theorem countP_opens_attempts (m : Message) (attempts : List Attempt) :
    (attempts.flatMap (Attempt.deeds m)).countP Deed.opens = attempts.length := by
  induction attempts with
  | nil => rfl
  | cons a rest ih =>
    have one : (a.deeds m).countP Deed.opens = 1 := by cases a <;> rfl
    rw [List.flatMap_cons, List.countP_append, one, ih, List.length_cons, Nat.add_comm]

/-- **A run opens its source and every target of every message that it routes**, each once. -/
theorem countP_opens_course (source : ChannelKey) (c : Course) :
    (c.deeds source).countP Deed.opens =
      1 + (c.rounds.map fun r => (r.entry.targets r.message).toList.length).sum := by
  have tried (r : Round) :
      (r.deeds source).countP Deed.opens = (r.entry.targets r.message).toList.length := by
    rw [← r.complete, List.length_map]
    exact countP_opens_attempts r.message r.attempts
  cases c with
  | unopened e => rfl
  | opened rounds ending =>
    have last : (ending.deeds source).countP Deed.opens = 0 := by cases ending <;> rfl
    have all : (rounds.flatMap (Round.deeds source)).countP Deed.opens =
        (rounds.map fun r => (r.entry.targets r.message).toList.length).sum := by
      rw [List.countP_flatMap]
      exact congrArg List.sum (List.map_congr_left fun r _ => tried r)
    rw [Course.deeds, trailed, List.countP_append, List.countP_cons_of_pos rfl, all, last,
      Nat.add_zero]
    exact Nat.add_comm ..

/-! ## Counting -/

/-- **What a transport tells of its handles.** -/
structure Gauge (σ : Type) where
  /-- Those that are open. -/
  live : σ → Nat
  /-- Those that were ever opened, if the transport keeps a journal. -/
  made : σ → Option Nat
  /-- Whether every channel can be opened. -/
  sound : σ → Prop

/-- Nothing is opened or released. -/
structure Gauge.Still (g : Gauge σ) (w w' : σ) : Prop where
  live : g.live w' = g.live w
  made : g.made w' = g.made w
  sound : g.sound w → g.sound w'

theorem Gauge.Still.refl (g : Gauge σ) (w : σ) : g.Still w w := ⟨rfl, rfl, fun sound => sound⟩

theorem Gauge.Still.trans {g : Gauge σ} {w w₁ w₂ : σ} (h₁ : g.Still w w₁) (h₂ : g.Still w₁ w₂) :
    g.Still w w₂ :=
  ⟨h₂.live.trans h₁.live, h₂.made.trans h₁.made, fun sound => h₂.sound (h₁.sound sound)⟩

/-- **An access over a transport that counts its handles.** -/
structure Access.Counts (p : Access σ) (g : Gauge σ) : Prop where
  opened : ∀ key w, g.sound w → (p.openChannel key w).1 = some (.ok ()) ∧
    g.live (p.openChannel key w).2 = g.live w + 1 ∧
    g.made (p.openChannel key w).2 = (g.made w).map (· + 1) ∧ g.sound (p.openChannel key w).2
  /-- One less is open, even if none was. -/
  released : ∀ key w, g.live (p.release key w).2 = g.live w - 1 ∧
    g.made (p.release key w).2 = g.made w ∧ (g.sound w → g.sound (p.release key w).2)
  received : ∀ key wait w, g.Still w (p.receive key wait w).2
  read : ∀ key w, g.Still w (p.readEntry key w).2
  sent : ∀ key m wait w, g.Still w (p.send key m wait w).2
  emitted : ∀ e w, g.Still w (p.emit e w).2

/-- An access goes on counting while reads fail. -/
theorem Access.Counts.outage {p : Access σ} {g : Gauge σ} (counts : p.Counts g)
    (down : σ → Option StoreError) : (p.outage down).Counts g where
  opened := counts.opened
  released := counts.released
  received := counts.received
  read key w := by
    simp only [Access.outage]
    cases down w with
    | some e => exact .refl g w
    | none => exact counts.read key w
  sent := counts.sent
  emitted := counts.emitted

/-- **What some deeds make of the counters.** The number of open handles follows what is held as long
as the deeds come in time, whatever it was before. -/
structure Registers (g : Gauge σ) (w : σ) (deeds : List Deed) (w' : σ) : Prop where
  sound : g.sound w'
  opened : ∀ key e, .opened key (.error e) ∉ deeds
  live : ∀ source held base, InTurn source held deeds → g.live w = base + held.length →
    g.live w' = base + (deeds.foldl Deed.hold held).length
  made : g.made w' = (g.made w).map (· + deeds.countP Deed.opens)

namespace Registers

variable {g : Gauge σ} {w w₁ w₂ w' : σ} {deeds d₁ d₂ : List Deed}

theorem trans (h₁ : Registers g w d₁ w₁) (h₂ : Registers g w₁ d₂ w₂) :
    Registers g w (d₁ ++ d₂) w₂ where
  sound := h₂.sound
  opened key e h := (List.mem_append.mp h).elim (h₁.opened key e) (h₂.opened key e)
  live source held base inTurn counted := by
    obtain ⟨first, later⟩ := inTurn_append.mp inTurn
    rw [List.foldl_append]
    exact h₂.live source _ base later (h₁.live source held base first counted)
  made := by
    rw [h₂.made, h₁.made, Option.map_map, List.countP_append]
    refine congrArg (fun f => Option.map f (g.made w)) (funext fun n => ?_)
    exact Nat.add_assoc ..

/-- Deeds that neither open nor release leave the counters alone. -/
theorem still (h : g.Still w w') (sound : g.sound w)
    (quiet : ∀ d ∈ deeds, d.opens = false ∧ ∀ held, d.hold held = held) : Registers g w deeds w' where
  sound := h.sound sound
  opened key e hd := nomatch (quiet _ hd).1
  live source held base _ counted := by
    rw [foldl_hold_eq (fun d hd => (quiet d hd).2) held, h.live, counted]
  made := by
    have none : deeds.countP Deed.opens = 0 :=
      List.countP_eq_zero.mpr fun d hd => Bool.eq_false_iff.mp (quiet d hd).1
    rw [h.made, none]
    exact Option.map_id'.symm

end Registers

/-- **Counting is a law.** -/
theorem Access.Counts.law {p : Access σ} {g : Gauge σ} (counts : p.Counts g) :
    p.Law fun w deeds w' => g.sound w → Registers g w deeds w' where
  refl w sound := .still (.refl g w) sound nofun
  trans h₁ h₂ sound := (h₁ sound).trans (h₂ (h₁ sound).sound)
  openChannel key w sound := by
    obtain ⟨answer, live, made, sound⟩ := counts.opened key w sound
    rw [answer]
    refine ⟨sound, fun k e h => ?_, fun source held base _ counted => ?_, made⟩
    · cases List.mem_singleton.mp h
    · rw [live, counted]
      rfl
  receive key wait w sound := by
    refine .still (counts.received key wait w) sound fun d hd => ?_
    obtain ⟨answer, -, rfl⟩ := List.mem_map.mp hd
    exact ⟨rfl, fun _ => rfl⟩
  readEntry key w sound := by
    refine .still (counts.read key w) sound fun d hd => ?_
    cases List.mem_singleton.mp hd
    exact ⟨rfl, fun _ => rfl⟩
  send key m wait w sound := by
    refine .still (counts.sent key m wait w) sound fun d hd => ?_
    obtain ⟨answer, -, rfl⟩ := List.mem_map.mp hd
    exact ⟨rfl, fun _ => rfl⟩
  release key w sound := by
    obtain ⟨live, made, kept⟩ := counts.released key w
    refine ⟨kept sound, fun k e h => ?_, fun source held base inTurn counted => ?_, ?_⟩
    · cases List.mem_singleton.mp h
    · -- The handle is held, so the counter was not at zero.
      obtain ⟨rest, rfl⟩ := List.head?_eq_some_iff.mp inTurn.1
      rw [live, counted, List.length_cons]
      simp only [List.foldl_cons, List.foldl_nil, Deed.hold, List.erase_cons_head]
      omega
    · rw [made]
      exact Option.map_id'.symm
  emit e w sound := .still (counts.emitted e w) sound nofun

/-! ## Balance -/

/-- **How the handles stand during a run.** -/
structure Held (g : Gauge σ) (source : ChannelKey) (w₀ : σ) (r : Run) (w : σ) (deeds : List Deed) :
    Prop where
  /-- What the run has opened and not released is what it holds. -/
  holding : holding deeds = r.held
  /-- What it holds is open besides what was open at the start. -/
  live : g.live w = g.live w₀ + r.held.length
  few : r.held.length ≤ 2
  /-- A target is released before the next one is opened or the next message received. -/
  inTurn : InTurn source [] deeds
  /-- Every opening has made a handle. -/
  opened : ∀ key e, .opened key (.error e) ∉ deeds
  made : g.made w = (g.made w₀).map (· + deeds.countP Deed.opens)

/-- **How the handles stand when a run has returned.** -/
structure GivenBack (g : Gauge σ) (source : ChannelKey) (w₀ w : σ) (deeds : List Deed) : Prop where
  live : g.live w = g.live w₀
  /-- One handle was made for the source, and one for each target of each message routed. -/
  made : ∃ c : Course, deeds = c.deeds source ∧ deeds.countP Deed.opens =
    1 + (c.rounds.map fun r => (r.entry.targets r.message).toList.length).sum

/-- **Handles balance over an access**: in every run of every loop among others. -/
def Access.Balances (p : Access σ) (others : σ → σ → Prop) (g : Gauge σ) : Prop :=
  ∀ (l : Loop) (thread : String) (w₀ w : σ) (r : Run) (deeds : List Deed), g.sound w₀ →
    Driven p others (l.start thread) w₀ r w deeds →
      Held g l.source w₀ r w deeds ∧
        ∀ outcome, r.outcome? = some outcome → GivenBack g l.source w₀ w deeds

/-- **No handle is lost over a transport that counts.** The others neither open nor release. -/
theorem balances_of_counts {p : Access σ} {others : σ → σ → Prop} {g : Gauge σ} (counts : p.Counts g)
    (apart : ∀ w w', others w w' → g.Still w w') : p.Balances others g := by
  intro l thread w₀ w r deeds sound run
  obtain ⟨trail, registers⟩ :=
    run.invariant counts.law fun w w' h sound => .still (apart w w' h) sound nofun
  have registers := registers sound
  obtain ⟨inTurn, held⟩ := run.inTurn counts.law
  have live : g.live w = g.live w₀ + r.held.length := by
    rw [← held]
    exact registers.live l.source [] (g.live w₀) inTurn rfl
  refine ⟨⟨held, live, length_held_le r, inTurn, registers.opened, registers.made⟩,
    fun outcome out => ?_⟩
  obtain ⟨c, -, did, -⟩ := trail.ended out
  refine ⟨?_, c, did, did ▸ countP_opens_course l.source c⟩
  unfold Run.outcome? at out
  cases hp : r.phase with
  | finished result =>
    rw [live, Run.held, hp]
    rfl
  | _ =>
    rw [hp] at out
    cases out

end ChannelRouting.Loop

/-! ## Nodes -/

namespace ChannelRouting.Node

/-- A node keeps no journal of its handles. -/
def gauge : Loop.Gauge Node where
  live n := n.transport.openHandles
  made _ := none
  sound _ := True

theorem counts_loopAccess : loopAccess.Counts gauge where
  opened _ _ _ := ⟨rfl, rfl, rfl, trivial⟩
  released _ _ := ⟨rfl, rfl, id⟩
  received key _ n := ⟨n.transport.openHandles_tryReceive key, rfl, id⟩
  read _ _ := ⟨rfl, rfl, id⟩
  sent key m _ n := ⟨n.transport.openHandles_trySend key m, rfl, id⟩
  emitted _ _ := ⟨rfl, rfl, id⟩

theorem counts_soleLoopAccess : soleLoopAccess.Counts gauge where
  opened _ _ _ := ⟨rfl, rfl, rfl, trivial⟩
  released _ _ := ⟨rfl, rfl, id⟩
  received key wait n := ⟨n.transport.openHandles_receiveAlone key wait, rfl, id⟩
  read _ _ := ⟨rfl, rfl, id⟩
  sent key m wait n := ⟨n.transport.openHandles_sendAlone key m wait, rfl, id⟩
  emitted _ _ := ⟨rfl, rfl, id⟩

end ChannelRouting.Node
