import ChannelRouting.Proofs.Transport.Answer
import Mathlib.Data.List.Basic

/-!
# Calls of a transport

A session is a transport in the hands of callers that come one after another: they enqueue,
open handles, send and receive through them, release them, drain, count and close. A call
either returns, with a reply, or never does; `Session.perform` is one call.

`Handled` is what a call can be that has returned: one case for each reply, with the
transport before and after. `handled_perform` is the inversion of `Session.perform` on which
the rest depends: what a call does to the capacity, the messages and the closed channels is
read off the cases of `Handled`. A call has no reply only if it waits for ever, or breaks off
because the clock does not reach the end of its wait (`perform_eq_none_iff`).
-/

namespace ChannelRouting.Transport

/-- A call. A handle is known by its place among those that were opened. -/
inductive Call where
  | enqueue (key : ChannelKey) (m : Message)
  | send (handle : Nat) (m : Message) (wait : WaitPolicy)
  | receive (handle : Nat) (wait : WaitPolicy)
  | drain (key : ChannelKey)
  | close (key : ChannelKey)
  | count (key : ChannelKey)
  | open_ (key : ChannelKey)
  | release (handle : Nat)

/-- What a call answers that has returned, with the channel it was about. -/
inductive Reply where
  /-- A message was enqueued or sent. -/
  | offered (key : ChannelKey) (m : Message) (result : Except TransportError Unit)
  | received (key : ChannelKey) (answer : Option Message)
  | drained (key : ChannelKey) (ms : List Message)
  | closed (key : ChannelKey)
  | counted (key : ChannelKey) (n : Nat)
  | opened (key : ChannelKey)
  | released (key : ChannelKey)
deriving DecidableEq

namespace Reply

def key : Reply → ChannelKey
  | offered k _ _ | received k _ | drained k _ | closed k | counted k _ | opened k | released k => k

/-- The messages that the channel accepted. -/
def given : Reply → List Message
  | offered _ m (.ok ()) => [m]
  | _ => []

/-- The messages that the channel handed out. -/
def taken : Reply → List Message
  | received _ (some m) => [m]
  | drained _ ms => ms
  | _ => []

end Reply

/-- A transport with the handles that were opened on it. -/
structure Session where
  transport : Transport
  handles : List Handle := []

namespace Session

/-- A session on a transport that nobody has used. -/
def fresh (capacity : Option Nat) : Session := { transport := { capacity := capacity } }

/-- A reply and the session after it, of which only the transport has changed. -/
def replying (s : Session) (r : Reply) (t : Transport) : Reply × Session :=
  (r, { s with transport := t })

/-- One call, while nobody else uses the transport; `none` if it never returns or there is no such
handle. -/
def perform (s : Session) : Call → Option (Reply × Session)
  | .enqueue key m =>
    let (result, t) := s.transport.enqueue key m
    some (s.replying (.offered key m result) t)
  | .send i m wait =>
    s.handles[i]?.bind fun h =>
      let (result, t) := s.transport.sendAlone h.key m wait
      result.map fun result => s.replying (.offered h.key m result) t
  | .receive i wait =>
    s.handles[i]?.bind fun h =>
      let (answer, t) := s.transport.receiveAlone h.key wait
      answer.map fun answer => s.replying (.received h.key answer) t
  | .drain key =>
    let (ms, t) := s.transport.drain key
    some (s.replying (.drained key ms) t)
  | .close key => some (s.replying (.closed key) (s.transport.close key))
  | .count key => some (s.replying (.counted key (s.transport.messages key).length) s.transport)
  | .open_ key =>
    let (h, t) := s.transport.open_ key
    some (.opened key, { transport := t, handles := s.handles ++ [h] })
  | .release i =>
    s.handles[i]?.map fun h =>
      let (h', t) := s.transport.release h
      (.released h.key, { transport := t, handles := s.handles.set i h' })

end Session

/-! ## One call -/

/-- **What a call can be that has returned.** -/
inductive Handled (t : Transport) : Reply → Transport → Prop
  | accepted (key : ChannelKey) (m : Message) : (t.queue key).closed = false →
    t.hasRoom (t.messages key).length = true →
    Handled t (.offered key m (.ok ()))
      (t.withQueue key { t.queue key with messages := t.messages key ++ [m] })
  | closedOut (key : ChannelKey) (m : Message) : (t.queue key).closed = true →
    Handled t (.offered key m (.error (.closed key))) t
  | noRoom (key : ChannelKey) (m : Message) (e : TransportError) : (t.queue key).closed = false →
    t.hasRoom (t.messages key).length = false → Handled t (.offered key m (.error e)) t
  | received (key : ChannelKey) (m : Message) (rest : List Message) : t.messages key = m :: rest →
    Handled t (.received key (some m)) (t.withQueue key { t.queue key with messages := rest })
  | nothing (key : ChannelKey) : t.messages key = [] → Handled t (.received key none) t
  | drained (key : ChannelKey) :
    Handled t (.drained key (t.messages key)) (t.withQueue key { t.queue key with messages := [] })
  | closed (key : ChannelKey) : Handled t (.closed key) (t.close key)
  | counted (key : ChannelKey) : Handled t (.counted key (t.messages key).length) t
  | opened (key : ChannelKey) (n : Nat) : Handled t (.opened key) { t with openHandles := n }
  | released (key : ChannelKey) (n : Nat) : Handled t (.released key) { t with openHandles := n }

theorem handled_sendAlone {t t' : Transport} {key : ChannelKey} {m : Message} {wait : WaitPolicy}
    {result : Except TransportError Unit} (h : t.sendAlone key m wait = (some result, t')) :
    Handled t (.offered key m result) t' := by
  cases reached : t.reaches wait with
  | false =>
    rw [sendAlone_beyond reached] at h
    cases h
  | true =>
    cases shut : (t.queue key).closed with
    | true =>
      rw [sendAlone_closed reached shut] at h
      cases h
      exact .closedOut key m shut
    | false =>
      cases room : t.hasRoom (t.messages key).length with
      | true =>
        rw [sendAlone_room reached shut room] at h
        cases h
        exact .accepted key m shut room
      | false =>
        rw [sendAlone_full reached shut room] at h
        cases hw : wait.limit with
        | none =>
          rw [hw] at h
          cases h
        | some limit =>
          rw [hw] at h
          cases h
          exact .noRoom key m _ shut room

theorem handled_receiveAlone {t t' : Transport} {key : ChannelKey} {wait : WaitPolicy}
    {answer : Option Message} (h : t.receiveAlone key wait = (some answer, t')) :
    Handled t (.received key answer) t' := by
  cases reached : t.reaches wait with
  | false =>
    rw [receiveAlone_beyond reached] at h
    cases h
  | true =>
    cases hq : t.messages key with
    | cons m rest =>
      rw [receiveAlone_cons reached hq] at h
      cases h
      exact .received key m rest hq
    | nil =>
      cases shut : (t.queue key).closed with
      | true =>
        rw [receiveAlone_closed reached hq shut] at h
        cases h
        exact .nothing key hq
      | false =>
        rw [receiveAlone_open reached hq shut] at h
        cases hw : wait.limit with
        | none =>
          rw [hw] at h
          cases h
        | some limit =>
          rw [hw] at h
          cases h
          exact .nothing key hq

theorem handled_release (t : Transport) (h : Handle) :
    Handled t (.released h.key) (t.release h).2 := by
  unfold release
  by_cases again : h.released = true
  · rw [if_pos again]
    exact .released h.key t.openHandles
  · rw [if_neg again]
    exact .released h.key (t.openHandles - 1)

/-- **A call that returns is one of these.** -/
theorem handled_perform {s s' : Session} {c : Call} {r : Reply} (h : s.perform c = some (r, s')) :
    Handled s.transport r s'.transport := by
  cases c with
  | enqueue key m =>
    cases h
    exact handled_sendAlone (sendAlone_immediate s.transport key m)
  | send i m wait =>
    obtain ⟨handle, -, h⟩ := Option.bind_eq_some_iff.mp h
    obtain ⟨result, sent, h⟩ := Option.map_eq_some_iff.mp h
    cases h
    exact handled_sendAlone (Prod.ext sent rfl)
  | receive i wait =>
    obtain ⟨handle, -, h⟩ := Option.bind_eq_some_iff.mp h
    obtain ⟨answer, got, h⟩ := Option.map_eq_some_iff.mp h
    cases h
    exact handled_receiveAlone (Prod.ext got rfl)
  | drain key =>
    cases h
    exact .drained key
  | close key =>
    cases h
    exact .closed key
  | count key =>
    cases h
    exact .counted key
  | open_ key =>
    cases h
    exact .opened key (s.transport.openHandles + 1)
  | release i =>
    obtain ⟨handle, -, h⟩ := Option.map_eq_some_iff.mp h
    cases h
    exact handled_release s.transport handle

/-- **A send never returns** if the clock does not reach the end of its wait, or if it waits without
a limit for room on an open channel. -/
theorem sendAlone_eq_none_iff {t : Transport} {key : ChannelKey} {m : Message} {wait : WaitPolicy} :
    (t.sendAlone key m wait).1 = none ↔ t.reaches wait = false ∨
      (t.queue key).closed = false ∧ t.hasRoom (t.messages key).length = false ∧
        wait.limit = none := by
  cases reached : t.reaches wait with
  | false =>
    rw [sendAlone_beyond reached]
    exact iff_of_true rfl (.inl rfl)
  | true =>
    refine Iff.trans ?_ (or_iff_right (by nofun)).symm
    cases shut : (t.queue key).closed with
    | true =>
      rw [sendAlone_closed reached shut]
      exact ⟨nofun, fun h => nomatch h.1⟩
    | false =>
      cases room : t.hasRoom (t.messages key).length with
      | true =>
        rw [sendAlone_room reached shut room]
        exact ⟨nofun, fun h => nomatch h.2.1⟩
      | false =>
        rw [sendAlone_full reached shut room]
        exact Option.map_eq_none_iff.trans ⟨fun h => ⟨rfl, rfl, h⟩, fun h => h.2.2⟩

/-- **A receive never returns** if the clock does not reach the end of its wait, or if it waits
without a limit for a message on an open channel. -/
theorem receiveAlone_eq_none_iff {t : Transport} {key : ChannelKey} {wait : WaitPolicy} :
    (t.receiveAlone key wait).1 = none ↔ t.reaches wait = false ∨
      t.messages key = [] ∧ (t.queue key).closed = false ∧ wait.limit = none := by
  cases reached : t.reaches wait with
  | false =>
    rw [receiveAlone_beyond reached]
    exact iff_of_true rfl (.inl rfl)
  | true =>
    refine Iff.trans ?_ (or_iff_right (by nofun)).symm
    cases hq : t.messages key with
    | cons m rest =>
      rw [receiveAlone_cons reached hq]
      exact ⟨nofun, fun h => nomatch h.1⟩
    | nil =>
      cases shut : (t.queue key).closed with
      | true =>
        rw [receiveAlone_closed reached hq shut]
        exact ⟨nofun, fun h => nomatch h.2.1⟩
      | false =>
        rw [receiveAlone_open reached hq shut]
        exact Option.map_eq_none_iff.trans ⟨fun h => ⟨rfl, rfl, h⟩, fun h => h.2.2⟩

/-- A call that never returns changes nothing. -/
theorem sendAlone_unanswered {t : Transport} {key : ChannelKey} {m : Message} {wait : WaitPolicy}
    (never : (t.sendAlone key m wait).1 = none) : (t.sendAlone key m wait).2 = t := by
  cases reached : t.reaches wait with
  | false => rw [sendAlone_beyond reached]
  | true =>
    rcases sendAlone_eq_none_iff.mp never with beyond | ⟨opened, full, -⟩
    · cases reached.symm.trans beyond
    · rw [sendAlone_full reached opened full]

theorem receiveAlone_unanswered {t : Transport} {key : ChannelKey} {wait : WaitPolicy}
    (never : (t.receiveAlone key wait).1 = none) : (t.receiveAlone key wait).2 = t := by
  cases reached : t.reaches wait with
  | false => rw [receiveAlone_beyond reached]
  | true =>
    rcases receiveAlone_eq_none_iff.mp never with beyond | ⟨empty, opened, -⟩
    · cases reached.symm.trans beyond
    · rw [receiveAlone_open reached empty opened]

/-- A call that can have no reply: it waits for ever, the clock does not reach the end of its wait,
or its handle was never opened. -/
def Session.Stuck (s : Session) : Call → Prop
  | .send i _ wait => ∀ h ∈ s.handles[i]?, s.transport.reaches wait = false ∨
    (s.transport.queue h.key).closed = false ∧
      s.transport.hasRoom (s.transport.messages h.key).length = false ∧ wait.limit = none
  | .receive i wait => ∀ h ∈ s.handles[i]?, s.transport.reaches wait = false ∨
    s.transport.messages h.key = [] ∧ (s.transport.queue h.key).closed = false ∧ wait.limit = none
  | .release i => s.handles[i]? = none
  | _ => False

/-- **A call returns unless it is stuck.** -/
theorem perform_eq_none_iff (s : Session) (c : Call) : s.perform c = none ↔ s.Stuck c := by
  cases c with
  | send i m wait =>
    unfold Session.perform Session.Stuck
    rw [Option.bind_eq_none_iff]
    refine forall₂_congr fun h _ => ?_
    exact Option.map_eq_none_iff.trans sendAlone_eq_none_iff
  | receive i wait =>
    unfold Session.perform Session.Stuck
    rw [Option.bind_eq_none_iff]
    refine forall₂_congr fun h _ => ?_
    exact Option.map_eq_none_iff.trans receiveAlone_eq_none_iff
  | release i => exact Option.map_eq_none_iff
  | enqueue key m | drain key | close key | count key | open_ key =>
    exact ⟨nofun, False.elim⟩

/-! ## What one call does -/

theorem hasRoom_iff {t : Transport} {length : Nat} :
    t.hasRoom length = true ↔ ∀ n, t.capacity = some n → length < n := by
  unfold hasRoom
  cases t.capacity with
  | none => exact ⟨nofun, fun _ => rfl⟩
  | some capacity =>
    simp only [decide_eq_true_eq, Option.some.injEq, forall_eq']

namespace Handled

variable {t t' : Transport} {r : Reply}

theorem capacity_eq (h : Handled t r t') : t'.capacity = t.capacity := by
  cases h <;> rfl

theorem reach_eq (h : Handled t r t') : t'.reach = t.reach := by
  cases h <;> rfl

theorem conserves (h : Handled t r t') : t.Conserves (only r.key r.given) (only r.key r.taken) t' := by
  cases h with
  | accepted key m _ _ => exact conserves_withQueue rfl
  | received key m rest hq => exact conserves_withQueue ((List.append_nil _).trans hq)
  | drained key => exact conserves_withQueue rfl
  | closed key => exact conserves_withQueue (List.append_nil _)
  | closedOut key | noRoom key | nothing key | counted key | opened key | released key =>
    exact only_nil key ▸ conserves_refl t

theorem queue_of_ne (h : Handled t r t') {k : ChannelKey} (hk : k ≠ r.key) :
    t'.queue k = t.queue k := by
  cases h with
  | accepted key | received key | drained key | closed key => exact queue_withQueue_of_ne hk
  | closedOut | noRoom | nothing | counted | opened | released => rfl

/-- A channel is closed if it was, or if this was the call that closed it. -/
theorem closed_iff (h : Handled t r t') (k : ChannelKey) :
    (t'.queue k).closed = true ↔ (t.queue k).closed = true ∨ r = .closed k := by
  by_cases hk : k = r.key
  · subst hk
    cases h with
    | accepted key | received key | drained key =>
      simp only [Reply.key, queue_withQueue_self, reduceCtorEq, or_false]
    | closed key =>
      simp only [Reply.key, close, queue_withQueue_self, or_true]
    | closedOut | noRoom | nothing | counted | opened | released =>
      exact (or_iff_left nofun).symm
  · rw [h.queue_of_ne hk]
    refine (or_iff_left ?_).symm
    rintro rfl
    exact hk rfl

theorem bounded (h : Handled t r t') {n : Nat} (bound : t.capacity = some n) {k : ChannelKey}
    (before : (t.messages k).length ≤ n) : (t'.messages k).length ≤ n := by
  by_cases hk : k = r.key
  · subst hk
    cases h with
    | accepted key m _ room =>
      have less : (t.messages key).length < n := hasRoom_iff.mp room n bound
      simp only [Reply.key, messages, queue_withQueue_self, List.length_append, List.length_singleton]
      exact less
    | received key m rest hq =>
      simp only [Reply.key, messages, queue_withQueue_self]
      simp only [Reply.key, hq, List.length_cons] at before
      omega
    | drained key =>
      simp only [Reply.key, messages, queue_withQueue_self, List.length_nil]
      omega
    | closed key =>
      simp only [Reply.key, messages, close, queue_withQueue_self]
      exact before
    | closedOut | noRoom | nothing | counted | opened | released => exact before
  · rw [messages, h.queue_of_ne hk]
    exact before

end Handled

end ChannelRouting.Transport
