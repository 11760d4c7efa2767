import ChannelRouting.Proofs.History
import ChannelRouting.Proofs.Transport.Call

/-!
# Sessions

`Session.run` is any number of calls, one after another. Of a whole session `session_orderly`
says, whatever the capacity, the keys and the handles:

* `Standing` holds at every moment: what a channel accepted is what it handed out followed by
  what it holds, it holds no more than the capacity, and it is closed if someone closed it.
* `Obeys` holds of every call: when a message is accepted and when it is refused, what a
  receive answers, and that other channels are left alone.
* A channel that was closed accepts nothing more and hands out what it held.
-/

namespace ChannelRouting.Transport

/-- A call that has returned, with the transport before and after. -/
structure Made where
  before : Transport
  reply : Reply
  after : Transport

/-- One more call after those that were made. -/
def Session.proceed (sofar : List Made × Session) (c : Call) : Option (List Made × Session) :=
  (sofar.2.perform c).map fun (r, s) =>
    (sofar.1 ++ [⟨sofar.2.transport, r, s.transport⟩], s)

/-- Calls in order; `none` if one of them never returns. -/
def Session.run (s : Session) (calls : List Call) : Option (List Made × Session) :=
  calls.foldlM Session.proceed ([], s)

/-! ## Calls in order -/

/-- **A history of a transport**: calls that returned one after another. -/
inductive History (start : Transport) : List Made → Transport → Prop
  | none : History start [] start
  | call {past : List Made} {t t' : Transport} {r : Reply} : History start past t → Handled t r t' →
    History start (past ++ [⟨t, r, t'⟩]) t'

/-- The messages that a channel accepted. -/
def accepted (key : ChannelKey) (past : List Made) : List Message :=
  past.flatMap fun x => only x.reply.key x.reply.given key

/-- The messages that a channel handed out. -/
def handedOut (key : ChannelKey) (past : List Made) : List Message :=
  past.flatMap fun x => only x.reply.key x.reply.taken key

/-- Whether somebody has closed a channel. -/
def HasClosed (key : ChannelKey) (past : List Made) : Prop := ∃ x ∈ past, x.reply = .closed key

/-- **How a transport stands after some calls.** -/
structure Standing (capacity : Option Nat) (past : List Made) (t : Transport) : Prop where
  fixed : t.capacity = capacity
  /-- First in, first out. -/
  conserved : ∀ key, accepted key past = handedOut key past ++ t.messages key
  bounded : ∀ key n, capacity = some n → (t.messages key).length ≤ n
  closed : ∀ key, (t.queue key).closed = true ↔ HasClosed key past

/-- **What a call obeys**, after some others. -/
structure Obeys (capacity : Option Nat) (past : List Made) (x : Made) : Prop where
  /-- A message is accepted just if nobody has closed the channel and there is room. -/
  accepts : ∀ key m result, x.reply = .offered key m result → (result = .ok () ↔
    ¬ HasClosed key past ∧ ∀ n, capacity = some n → (x.before.messages key).length < n)
  /-- A refusal changes nothing, and a closed channel refuses as closed. -/
  refuses : ∀ key m e, x.reply = .offered key m (.error e) →
    (∀ k, x.after.queue k = x.before.queue k) ∧ (HasClosed key past → e = .closed key)
  /-- A receive answers with the first message, and with none only if there is none. -/
  receives : ∀ key answer, x.reply = .received key answer → answer = (x.before.messages key).head?
  drains : ∀ key ms, x.reply = .drained key ms → ms = x.before.messages key
  counts : ∀ key n, x.reply = .counted key n → n = (x.before.messages key).length
  /-- Other channels are left alone. -/
  apart : ∀ k, k ≠ x.reply.key → x.after.queue k = x.before.queue k

/-- **Order in a session.** -/
structure Orderly (capacity : Option Nat) (past : List Made) (t : Transport) : Prop where
  standing : Standing capacity past t
  /-- It stood like that before every call, and the call obeyed. -/
  always : Throughout (fun earlier x => Standing capacity earlier x.before ∧
    Obeys capacity earlier x) past
  /-- A closed channel accepts nothing more, and what it held comes out in order. -/
  closing : ∀ key earlier x later, past = earlier ++ x :: later → x.reply = .closed key →
    accepted key later = [] ∧ x.after.messages key = handedOut key later ++ t.messages key

/-! ## What calls in order do -/

variable {capacity : Option Nat} {past : List Made} {t t' : Transport} {r : Reply}

theorem accepted_concat (key : ChannelKey) (past : List Made) (x : Made) :
    accepted key (past ++ [x]) = accepted key past ++ only x.reply.key x.reply.given key := by
  rw [accepted, List.flatMap_append, List.flatMap_singleton]
  rfl

theorem handedOut_concat (key : ChannelKey) (past : List Made) (x : Made) :
    handedOut key (past ++ [x]) = handedOut key past ++ only x.reply.key x.reply.taken key := by
  rw [handedOut, List.flatMap_append, List.flatMap_singleton]
  rfl

/-- What a channel holds and accepts comes out of it first in, first out. -/
theorem History.conserved {start : Transport} (h : History start past t) (key : ChannelKey) :
    start.messages key ++ accepted key past = handedOut key past ++ t.messages key := by
  induction h with
  | none => exact List.append_nil _
  | call _ handled ih =>
    rw [accepted_concat, handedOut_concat, ← List.append_assoc, ih, List.append_assoc,
      List.append_assoc]
    exact congrArg (handedOut key _ ++ ·) (handled.conserves key)

/-- A call of a history was handled, and the calls after it are a history too. -/
theorem History.split {start : Transport} {earlier later : List Made} {x : Made}
    (h : History start (earlier ++ x :: later) t) :
    Handled x.before x.reply x.after ∧ History x.after later t := by
  generalize all : earlier ++ x :: later = past at h
  induction h generalizing later with
  | none => exact absurd all (List.append_ne_nil_of_right_ne_nil _ (List.cons_ne_nil _ _))
  | call history handled ih =>
    rcases List.eq_nil_or_concat later with rfl | ⟨init, last, rfl⟩
    · obtain ⟨-, same⟩ := List.append_inj' all rfl
      cases same
      exact ⟨handled, .none⟩
    · rw [List.concat_eq_append, ← List.cons_append, ← List.append_assoc] at all
      obtain ⟨front, same⟩ := List.append_inj' all rfl
      cases same
      obtain ⟨own, rest⟩ := ih front
      rw [List.concat_eq_append]
      exact ⟨own, .call rest handled⟩

/-- A closed channel stays closed and accepts nothing. -/
theorem History.closed {start : Transport} (h : History start past t) {key : ChannelKey}
    (closed : (start.queue key).closed = true) :
    (t.queue key).closed = true ∧ accepted key past = [] := by
  induction h with
  | none => exact ⟨closed, rfl⟩
  | @call _ t t' r _ handled ih =>
    refine ⟨(handled.closed_iff key).mpr (.inl ih.1), ?_⟩
    rw [accepted_concat, ih.2, List.nil_append]
    by_cases hk : key = r.key
    · subst hk
      cases handled with
      | accepted k m opened => exact absurd ih.1 (Bool.eq_false_iff.mp opened)
      | _ => exact congrFun (only_nil _) _
    · exact if_neg hk

theorem standing_start (capacity : Option Nat) : Standing capacity [] { capacity := capacity } where
  fixed := rfl
  conserved _ := rfl
  bounded _ n _ := Nat.zero_le n
  closed _ := ⟨nofun, fun ⟨_, hx, _⟩ => nomatch hx⟩

/-- **A call keeps how a transport stands.** -/
theorem Standing.call (h : Standing capacity past t) (handled : Handled t r t') :
    Standing capacity (past ++ [⟨t, r, t'⟩]) t' where
  fixed := handled.capacity_eq.trans h.fixed
  conserved key := by
    rw [accepted_concat, handedOut_concat, h.conserved, List.append_assoc, List.append_assoc]
    exact congrArg (handedOut key past ++ ·) (handled.conserves key)
  bounded key n hn := handled.bounded (h.fixed.trans hn) (h.bounded key n hn)
  closed key := by
    rw [handled.closed_iff, h.closed]
    simp only [HasClosed, List.mem_append, List.mem_singleton, or_and_right, exists_or,
      exists_eq_left]

/-- **A call obeys.** -/
theorem Standing.obeys (h : Standing capacity past t) (handled : Handled t r t') :
    Obeys capacity past ⟨t, r, t'⟩ where
  accepts key m result offered := by
    subst offered
    rw [← h.closed key, ← h.fixed, ← hasRoom_iff, Bool.not_eq_true]
    cases handled with
    | accepted _ _ opened room => exact ⟨fun _ => ⟨opened, room⟩, fun _ => rfl⟩
    | closedOut _ _ closed =>
      exact ⟨nofun, fun able => absurd closed (Bool.eq_false_iff.mp able.1)⟩
    | noRoom _ _ e _ full => exact ⟨nofun, fun able => absurd able.2 (Bool.eq_false_iff.mp full)⟩
  refuses key m e refused := by
    subst refused
    rw [← h.closed key]
    cases handled with
    | closedOut => exact ⟨fun _ => rfl, fun _ => rfl⟩
    | noRoom _ _ e opened => exact ⟨fun _ => rfl, fun closed => absurd closed (Bool.eq_false_iff.mp opened)⟩
  receives key answer received := by
    subst received
    cases handled with
    | received _ m rest hq => exact congrArg List.head? hq.symm
    | nothing _ hq => exact congrArg List.head? hq.symm
  drains key ms drained := by
    subst drained
    cases handled
    rfl
  counts key n counted := by
    subst counted
    cases handled
    rfl
  apart k hk := handled.queue_of_ne hk

theorem History.orderly (h : History { capacity := capacity } past t) : Orderly capacity past t := by
  have steps : Standing capacity past t ∧ Throughout (fun earlier x =>
      Standing capacity earlier x.before ∧ Obeys capacity earlier x) past := by
    induction h with
    | none => exact ⟨standing_start capacity, throughout_nil⟩
    | call _ handled ih =>
      exact ⟨ih.1.call handled, throughout_concat ih.2 ⟨ih.1, ih.1.obeys handled⟩⟩
  refine ⟨steps.1, steps.2, ?_⟩
  rintro key earlier x later rfl closed
  obtain ⟨handled, rest⟩ := h.split
  have shut : (x.after.queue key).closed = true := (handled.closed_iff key).mpr (.inr closed)
  have nothing := (rest.closed shut).2
  have balance := rest.conserved key
  rw [nothing, List.append_nil] at balance
  exact ⟨nothing, balance⟩

/-! ## Sessions -/

/-- The calls of a session are a history of its transport. -/
theorem history_run {start : Transport} {calls : List Call} {past made : List Made} {s s' : Session}
    (h : History start past s.transport)
    (ran : calls.foldlM Session.proceed (past, s) = some (made, s')) :
    History start made s'.transport := by
  induction calls generalizing past s with
  | nil =>
    cases ran
    exact h
  | cons c rest ih =>
    rw [List.foldlM_cons] at ran
    obtain ⟨next, proceeded, ran⟩ := Option.bind_eq_some_iff.mp ran
    obtain ⟨⟨r, s₁⟩, performed, rfl⟩ := Option.map_eq_some_iff.mp proceeded
    exact ih (h.call (handled_perform performed)) ran

/-- **The transport keeps messages in order**, whatever is asked of it, of whichever channels and
through whichever handles. A call that is asked of it next returns unless it is stuck: it waits for
ever, or until after the last moment of the clock. -/
theorem session_orderly {capacity : Option Nat} {calls : List Call} {made : List Made} {s : Session}
    (ran : (Session.fresh capacity).run calls = some (made, s)) :
    Orderly capacity made s.transport ∧ ∀ c, s.perform c = none ↔ s.Stuck c :=
  ⟨(history_run .none ran).orderly, perform_eq_none_iff s⟩

/-- Two handles of a channel with room for two messages, which is filled, read, closed while it is
full, and read to its end; another channel is drained meanwhile. -/
def busyCalls : List Call :=
  let m (n : Nat) : Message := .new (.ofNat n) []
  [.open_ ⟨"a"⟩, .open_ ⟨"a"⟩, .send 0 (m 1) .indefinite, .enqueue ⟨"b"⟩ (m 2),
    .send 1 (m 3) .immediate, .enqueue ⟨"a"⟩ (m 4), .receive 1 .indefinite, .release 0,
    .send 0 (m 5) .indefinite, .close ⟨"a"⟩, .send 1 (m 6) .indefinite, .drain ⟨"b"⟩,
    .receive 0 .indefinite, .count ⟨"a"⟩, .receive 1 .immediate, .receive 0 .indefinite]

/-- The full channel refuses as full, and as closed once it is closed. -/
theorem session_orderly_busy :
    (((Session.fresh (some 2)).run busyCalls).map fun ran => ran.1.map Made.reply) =
      some (let m (n : Nat) : Message := .new (.ofNat n) []
        [.opened ⟨"a"⟩, .opened ⟨"a"⟩, .offered ⟨"a"⟩ (m 1) (.ok ()), .offered ⟨"b"⟩ (m 2) (.ok ()),
          .offered ⟨"a"⟩ (m 3) (.ok ()), .offered ⟨"a"⟩ (m 4) (.error (.full ⟨"a"⟩)),
          .received ⟨"a"⟩ (some (m 1)), .released ⟨"a"⟩, .offered ⟨"a"⟩ (m 5) (.ok ()), .closed ⟨"a"⟩,
          .offered ⟨"a"⟩ (m 6) (.error (.closed ⟨"a"⟩)), .drained ⟨"b"⟩ [m 2],
          .received ⟨"a"⟩ (some (m 3)), .counted ⟨"a"⟩ 1, .received ⟨"a"⟩ (some (m 5)),
          .received ⟨"a"⟩ none]) ∧
      ∃ made s, (Session.fresh (some 2)).run busyCalls = some (made, s) ∧
        Orderly (some 2) made s.transport ∧ ∀ c, s.perform c = none ↔ s.Stuck c := by
  refine ⟨by decide +kernel, ?_⟩
  have returned : ((Session.fresh (some 2)).run busyCalls).isSome = true := by decide +kernel
  obtain ⟨⟨made, s⟩, ran⟩ := Option.isSome_iff_exists.mp returned
  exact ⟨made, s, ran, session_orderly ran⟩

end ChannelRouting.Transport
