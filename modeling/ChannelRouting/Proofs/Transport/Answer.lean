import ChannelRouting.Proofs.Transport.Conservation

/-!
# What a call answers

A send or receive settles by the state of its channel: whether it is closed, whether it has
room, and whether it holds messages. The equations here say how, one for each state, first
for an attempt and then for a whole call that nobody disturbs. Proofs about calls start from
these and leave the calls closed.

A whole call comes so far only if the clock reaches the end of its wait; else it has broken off
before it looked at the channel (`sendAlone_beyond`, `receiveAlone_beyond`). Calls that wait
without a limit or not at all always come so far.

So what a call answers depends on the capacity, the clock and its own channel: two transports that
agree on these give the same answer, and go on to agree (`Agree`). The counter of handles has no
part in it, and is left as it was.
-/

namespace ChannelRouting.Transport

variable {t : Transport} {key : ChannelKey} {wait : WaitPolicy}

/-! ## The end of a wait -/

theorem reaches_iff :
    t.reaches wait = true ↔ ∀ limit, wait.limit = some limit → limit.toNanos ≤ t.reach := by
  unfold reaches
  cases wait.limit with
  | none => exact iff_of_true rfl fun _ h => nomatch h
  | some limit =>
    rw [Option.all_some, decide_eq_true_iff]
    constructor
    · rintro reached _ ⟨⟩
      exact reached
    · exact fun reached => reached limit rfl

theorem reaches_indefinite (t : Transport) : t.reaches .indefinite = true := rfl

/-- A wait that is over at once ends by any moment. -/
theorem reaches_of_limit_zero (t : Transport) (h : wait.limit = some .zero) :
    t.reaches wait = true := by
  refine reaches_iff.mpr fun limit limited => ?_
  rw [← Option.some.inj (h.symm.trans limited), Duration.toNanos_zero]
  exact Nat.zero_le _

theorem reaches_congr {t t' : Transport} {p q : WaitPolicy} (clock : t.reach = t'.reach)
    (limits : p.limit = q.limit) : t.reaches p = t'.reaches q := by
  unfold reaches
  rw [clock, limits]

/-! ## Sending -/

theorem trySend_closed (h : (t.queue key).closed = true) (m : Message) :
    t.trySend key m = (some (.error (.closed key)), t) := by
  unfold trySend
  exact if_pos h

theorem trySend_room (h : (t.queue key).closed = false)
    (room : t.hasRoom (t.messages key).length = true) (m : Message) :
    t.trySend key m =
      (some (.ok ()), t.withQueue key { t.queue key with messages := t.messages key ++ [m] }) := by
  unfold trySend
  exact (if_neg (Bool.eq_false_iff.mp h)).trans (if_pos room)

theorem trySend_full (h : (t.queue key).closed = false)
    (full : t.hasRoom (t.messages key).length = false) (m : Message) :
    t.trySend key m = (none, t) := by
  unfold trySend
  exact (if_neg (Bool.eq_false_iff.mp h)).trans (if_neg (Bool.eq_false_iff.mp full))

/-- An attempt that does not settle changes nothing. -/
theorem trySend_unsettled {m : Message} {t' : Transport} (h : t.trySend key m = (none, t')) :
    t = t' := by
  cases closed : (t.queue key).closed with
  | true =>
    rw [trySend_closed closed] at h
    cases h
  | false =>
    cases room : t.hasRoom (t.messages key).length with
    | true =>
      rw [trySend_room closed room] at h
      cases h
    | false =>
      rw [trySend_full closed room] at h
      exact congrArg Prod.snd h

/-- A send breaks off if the clock does not reach the end of its wait. -/
theorem sendAlone_beyond (beyond : t.reaches wait = false) (m : Message) :
    t.sendAlone key m wait = (none, t) := if_neg (Bool.eq_false_iff.mp beyond)

/-- A send goes by its attempt otherwise. -/
theorem sendAlone_reached (reached : t.reaches wait = true) (m : Message) :
    t.sendAlone key m wait = match t.trySend key m with
      | (some r, t') => (some r, t')
      | (none, t') => (wait.limit.map fun _ => .error (.ofWait key wait), t') := if_pos reached

theorem sendAlone_closed (reached : t.reaches wait = true) (h : (t.queue key).closed = true)
    (m : Message) : t.sendAlone key m wait = (some (.error (.closed key)), t) := by
  rw [sendAlone_reached reached, trySend_closed h]

theorem sendAlone_room (reached : t.reaches wait = true) (h : (t.queue key).closed = false)
    (room : t.hasRoom (t.messages key).length = true) (m : Message) :
    t.sendAlone key m wait =
      (some (.ok ()), t.withQueue key { t.queue key with messages := t.messages key ++ [m] }) := by
  rw [sendAlone_reached reached, trySend_room h room]

theorem sendAlone_full (reached : t.reaches wait = true) (h : (t.queue key).closed = false)
    (full : t.hasRoom (t.messages key).length = false) (m : Message) :
    t.sendAlone key m wait = (wait.limit.map fun _ => .error (.ofWait key wait), t) := by
  rw [sendAlone_reached reached, trySend_full h full]

/-- Nothing gets into a closed channel, whether a send is refused or breaks off. -/
theorem sendAlone_of_closed (h : (t.queue key).closed = true) (m : Message) (wait : WaitPolicy) :
    (t.sendAlone key m wait).2 = t := by
  cases reached : t.reaches wait with
  | false => rw [sendAlone_beyond reached]
  | true => rw [sendAlone_closed reached h]

/-- To enqueue is to send without waiting. -/
theorem sendAlone_immediate (t : Transport) (key : ChannelKey) (m : Message) :
    t.sendAlone key m .immediate = (some (t.enqueue key m).1, (t.enqueue key m).2) := by
  rw [sendAlone_reached (t.reaches_of_limit_zero rfl)]
  unfold enqueue
  rcases t.trySend key m with ⟨_ | result, t'⟩ <;> rfl

/-! ## Receiving -/

theorem tryReceive_cons {m : Message} {rest : List Message} (h : t.messages key = m :: rest) :
    t.tryReceive key = (some (some m), t.withQueue key { t.queue key with messages := rest }) := by
  unfold messages at h
  simp only [tryReceive, h]

theorem tryReceive_nil (h : t.messages key = []) :
    t.tryReceive key = (if (t.queue key).closed then some none else none, t) := by
  unfold messages at h
  simp only [tryReceive, h]

theorem tryReceive_unsettled {t' : Transport} (h : t.tryReceive key = (none, t')) : t = t' := by
  cases queued : t.messages key with
  | nil =>
    rw [tryReceive_nil queued] at h
    exact congrArg Prod.snd h
  | cons m rest =>
    rw [tryReceive_cons queued] at h
    cases h

/-- A receive breaks off if the clock does not reach the end of its wait. -/
theorem receiveAlone_beyond (beyond : t.reaches wait = false) :
    t.receiveAlone key wait = (none, t) := if_neg (Bool.eq_false_iff.mp beyond)

/-- A receive goes by its attempt otherwise. -/
theorem receiveAlone_reached (reached : t.reaches wait = true) :
    t.receiveAlone key wait = match t.tryReceive key with
      | (some r, t') => (some r, t')
      | (none, t') => (wait.limit.map fun _ => none, t') := if_pos reached

theorem receiveAlone_cons {m : Message} {rest : List Message} (reached : t.reaches wait = true)
    (h : t.messages key = m :: rest) :
    t.receiveAlone key wait =
      (some (some m), t.withQueue key { t.queue key with messages := rest }) := by
  rw [receiveAlone_reached reached, tryReceive_cons h]

theorem receiveAlone_closed (reached : t.reaches wait = true) (h : t.messages key = [])
    (closed : (t.queue key).closed = true) : t.receiveAlone key wait = (some none, t) := by
  rw [receiveAlone_reached reached, tryReceive_nil h, if_pos closed]

theorem receiveAlone_open (reached : t.reaches wait = true) (h : t.messages key = [])
    (opened : (t.queue key).closed = false) :
    t.receiveAlone key wait = (wait.limit.map fun _ => none, t) := by
  rw [receiveAlone_reached reached, tryReceive_nil h, if_neg (Bool.eq_false_iff.mp opened)]

/-! ## The counter of handles -/

theorem openHandles_trySend (t : Transport) (key : ChannelKey) (m : Message) :
    (t.trySend key m).2.openHandles = t.openHandles := by
  cases closed : (t.queue key).closed with
  | true => rw [trySend_closed closed]
  | false =>
    cases room : t.hasRoom (t.messages key).length with
    | true =>
      rw [trySend_room closed room]
      rfl
    | false => rw [trySend_full closed room]

theorem openHandles_tryReceive (t : Transport) (key : ChannelKey) :
    (t.tryReceive key).2.openHandles = t.openHandles := by
  cases queued : t.messages key with
  | nil => rw [tryReceive_nil queued]
  | cons m rest =>
    rw [tryReceive_cons queued]
    rfl

theorem openHandles_sendAlone (t : Transport) (key : ChannelKey) (m : Message)
    (wait : WaitPolicy) : (t.sendAlone key m wait).2.openHandles = t.openHandles := by
  cases reached : t.reaches wait with
  | false => rw [sendAlone_beyond reached]
  | true =>
    have tried := t.openHandles_trySend key m
    rw [sendAlone_reached reached]
    rcases called : t.trySend key m with ⟨_ | answer, t'⟩ <;> rwa [called] at tried

theorem openHandles_receiveAlone (t : Transport) (key : ChannelKey) (wait : WaitPolicy) :
    (t.receiveAlone key wait).2.openHandles = t.openHandles := by
  cases reached : t.reaches wait with
  | false => rw [receiveAlone_beyond reached]
  | true =>
    have tried := t.openHandles_tryReceive key
    rw [receiveAlone_reached reached]
    rcases called : t.tryReceive key with ⟨_ | answer, t'⟩ <;> rwa [called] at tried

theorem openHandles_enqueue (t : Transport) (key : ChannelKey) (m : Message) :
    (t.enqueue key m).2.openHandles = t.openHandles := by
  have tried := t.openHandles_trySend key m
  unfold enqueue
  rcases called : t.trySend key m with ⟨_ | answer, t'⟩ <;> rwa [called] at tried

/-! ## Transports that agree -/

/-- Two transports with one capacity and one clock that hold the same at some channels. -/
structure Agree (on : ChannelKey → Prop) (t₁ t₂ : Transport) : Prop where
  capacity : t₁.capacity = t₂.capacity
  reach : t₁.reach = t₂.reach
  queue : ∀ k, on k → t₁.queue k = t₂.queue k

namespace Agree

variable {on : ChannelKey → Prop} {t₁ t₂ : Transport}

theorem refl (on : ChannelKey → Prop) (t : Transport) : Agree on t t := ⟨rfl, rfl, fun _ _ => rfl⟩

theorem symm (h : Agree on t₁ t₂) : Agree on t₂ t₁ :=
  ⟨h.capacity.symm, h.reach.symm, fun k hk => (h.queue k hk).symm⟩

theorem trans {t₃ : Transport} (h : Agree on t₁ t₂) (h' : Agree on t₂ t₃) : Agree on t₁ t₃ :=
  ⟨h.capacity.trans h'.capacity, h.reach.trans h'.reach,
    fun k hk => (h.queue k hk).trans (h'.queue k hk)⟩

/-- The counters of handles need not agree. -/
theorem withHandles (h : Agree on t₁ t₂) (n₁ n₂ : Nat) :
    Agree on { t₁ with openHandles := n₁ } { t₂ with openHandles := n₂ } :=
  ⟨h.capacity, h.reach, h.queue⟩

theorem withQueue (h : Agree on t₁ t₂) (key : ChannelKey) (q : Queue) :
    Agree on (t₁.withQueue key q) (t₂.withQueue key q) where
  capacity := h.capacity
  reach := h.reach
  queue k hk := by
    by_cases same : k = key
    · subst same
      rw [queue_withQueue_self, queue_withQueue_self]
    · rw [queue_withQueue_of_ne same, queue_withQueue_of_ne same]
      exact h.queue k hk

theorem reaches (h : Agree on t₁ t₂) (wait : WaitPolicy) : t₁.reaches wait = t₂.reaches wait :=
  reaches_congr h.reach rfl

theorem receiveAlone (h : Agree on t₁ t₂) (hk : on key) (wait : WaitPolicy) :
    (t₁.receiveAlone key wait).1 = (t₂.receiveAlone key wait).1 ∧
      Agree on (t₁.receiveAlone key wait).2 (t₂.receiveAlone key wait).2 := by
  have same : t₁.queue key = t₂.queue key := h.queue key hk
  have held : t₁.messages key = t₂.messages key := congrArg Queue.messages same
  cases reached : t₂.reaches wait with
  | false =>
    rw [receiveAlone_beyond reached, receiveAlone_beyond ((h.reaches wait).trans reached)]
    exact ⟨rfl, h⟩
  | true =>
    have reached₁ := (h.reaches wait).trans reached
    cases hq : t₂.messages key with
    | cons m rest =>
      rw [receiveAlone_cons reached hq, receiveAlone_cons reached₁ (held.trans hq), same]
      exact ⟨rfl, h.withQueue key _⟩
    | nil =>
      cases closed : (t₂.queue key).closed with
      | true =>
        rw [receiveAlone_closed reached hq closed,
          receiveAlone_closed reached₁ (held.trans hq) (same ▸ closed)]
        exact ⟨rfl, h⟩
      | false =>
        rw [receiveAlone_open reached hq closed,
          receiveAlone_open reached₁ (held.trans hq) (same ▸ closed)]
        exact ⟨rfl, h⟩

theorem sendAlone (h : Agree on t₁ t₂) (hk : on key) (m : Message) (wait : WaitPolicy) :
    (t₁.sendAlone key m wait).1 = (t₂.sendAlone key m wait).1 ∧
      Agree on (t₁.sendAlone key m wait).2 (t₂.sendAlone key m wait).2 := by
  have same : t₁.queue key = t₂.queue key := h.queue key hk
  have held : t₁.messages key = t₂.messages key := congrArg Queue.messages same
  have room (n : Nat) : t₁.hasRoom n = t₂.hasRoom n := by
    unfold hasRoom
    rw [h.capacity]
  cases reached : t₂.reaches wait with
  | false =>
    rw [sendAlone_beyond reached, sendAlone_beyond ((h.reaches wait).trans reached)]
    exact ⟨rfl, h⟩
  | true =>
    have reached₁ := (h.reaches wait).trans reached
    cases closed : (t₂.queue key).closed with
    | true =>
      rw [sendAlone_closed reached closed, sendAlone_closed reached₁ (same ▸ closed)]
      exact ⟨rfl, h⟩
    | false =>
      cases full : t₂.hasRoom (t₂.messages key).length with
      | true =>
        rw [sendAlone_room reached closed full,
          sendAlone_room reached₁ (same ▸ closed) (held ▸ room _ ▸ full), same, held]
        exact ⟨rfl, h.withQueue key _⟩
      | false =>
        rw [sendAlone_full reached closed full,
          sendAlone_full reached₁ (same ▸ closed) (held ▸ room _ ▸ full)]
        exact ⟨rfl, h⟩

end Agree

end ChannelRouting.Transport
