import ChannelRouting.Proofs.Transport.Journal
import ChannelRouting.Scenario.Schedule

/-!
# Calls in the foreground

A scenario makes a call by taking it up turn after turn, and lets the clock jump to the next moment
at which some wait is over. Where nothing else goes on (`Idle`) one call can be followed to its end:
its first turn settles it, or it waits alone (`parked`), and then the clock jumps to its deadline,
or to the end of its time if it has none.

So a send or receive in the foreground answers, and changes the recording, as the whole call does
that nobody disturbs (`Idle.ends_send`, `Idle.ends_receive`), if the foreground has the patience
to wait as long as the call would, and the clock reaches as far as that patience.
-/

namespace ChannelRouting.Scenario

/-- A world whose transport records and in which nothing goes on: no call waits, no task can go on,
and no fault of a channel is queued. -/
structure Idle (w : World) : Prop where
  records : w.records = true
  waiters : w.waiters = []
  ready : w.ready = []
  faults : w.channelFaults = []
  broke : w.broke = false

/-- The world while a call of the script waits. -/
def parked (w : World) (x : Waiter) : World := { w with waiters := [x] }

variable {α β : Type} {w : World}

theorem run_bind (x : Step α) (f : α → Step β) (w : World) :
    (x >>= f) w = f (x w).1 (x w).2 := rfl

theorem run_get (w : World) : (get : Step World) w = (w, w) := rfl

theorem run_set (w w' : World) : (set w' : Step Unit) w = ((), w') := rfl

theorem run_modify (f : World → World) (w : World) : (modify f : Step Unit) w = ((), f w) := rfl

/-! ## Steps in an idle world -/

namespace Idle

theorem again (idle : Idle w) (r : Recording) (woken : Bool) :
    Idle { w with recording := r, woken := woken } :=
  ⟨idle.records, idle.waiters, idle.ready, idle.faults, idle.broke⟩

theorem waiter? (idle : Idle w) (a : Actor) : waiter? w a = none := by
  rw [Scenario.waiter?, idle.waiters]
  rfl

theorem strikeChannel (idle : Idle w) (call : ChannelCall) (key : ChannelKey) :
    strikeChannel call key w = (.passes, w) := by
  have other : countDown (fun f : ChannelFault => f.call = call && f.key = key)
      ChannelFault.after (fun f => { f with after := f.after - 1 }) w.channelFaults =
        (none, w.channelFaults) := by
    rw [idle.faults]
    rfl
  simp only [Scenario.strikeChannel, modifyGet, MonadStateOf.modifyGet, StateT.modifyGet, other]
  rfl

theorem without_waiters (idle : Idle w) : { w with waiters := [] } = w := by
  rw [← idle.waiters]

theorem notifyOne (idle : Idle w) (key : ChannelKey) (side : Side) :
    notifyOne key side w = ((), w) := by
  rw [← idle.without_waiters]
  rfl

theorem notifyAll (idle : Idle w) (key : ChannelKey) (side : Side) :
    notifyAll key side w = ((), w) := by
  rw [← idle.without_waiters]
  rfl

end Idle

theorem runReady_nil (ready : w.ready = []) (turns : Nat) : runReady turns w = ((), w) := by
  cases turns with
  | zero => rfl
  | succ turns =>
    have same : { w with ready := [] } = w := by rw [← ready]
    rw [← same]
    rfl

/-! ## Calls in the foreground -/

section

variable {alarm : Nat} {turn : β → Step (β × Option α)} {b b' : β} {w' : World}

/-- A call that is settled by its next turn. -/
theorem awaitUntil_settled {a : α} (taken : turn b { w with woken := false } = ((b', some a), w'))
    (turns : Nat) : awaitUntil alarm turn (turns + 1) b w = ((b', some a), w') := by
  rw [awaitUntil]
  simp only [run_bind, run_modify, run_get, taken, Option.isSome_some, Bool.true_or, if_true]
  rfl

/-- A call whose time is over after its next turn. -/
theorem awaitUntil_over (taken : turn b { w with woken := false } = ((b', none), w'))
    (late : alarm ≤ w'.now) (turns : Nat) :
    awaitUntil alarm turn (turns + 1) b w = ((b', none), w') := by
  rw [awaitUntil]
  simp only [run_bind, run_modify, run_get, taken, late, decide_true, Bool.or_true, if_true]
  rfl

/-- A call that waits after its next turn, while nothing else can go on. -/
theorem awaitUntil_waiting (taken : turn b { w with woken := false } = ((b', none), w'))
    (early : w'.now < alarm) (broke : w'.broke = false) (ready : w'.ready = [])
    (woken : w'.woken = false) (turns : Nat) :
    awaitUntil alarm turn (turns + 1) b w = awaitUntil alarm turn turns b' (jump alarm w').2 := by
  rw [awaitUntil]
  simp only [run_bind, run_modify, run_get, taken, Option.isSome_none, broke, Bool.or_false,
    Nat.not_le_of_lt early, decide_false, Bool.false_eq_true, if_false, runReady_nil ready, woken]

end

theorem isPast_some (w : World) (d : Nat) : isPast w (some d) = decide (d ≤ w.now) := rfl

/-- The clock jumps to the moment at which the one waiting call is over, or to the alarm. -/
theorem jump_parked (w : World) {x : Waiter} (foreground : x.actor = .foreground) (alarm : Nat) :
    ∃ woken, jump alarm (parked w x) = ((), parked
      { w with now := max w.now (x.deadline.elim alarm (min alarm)), woken := woken } x) := by
  obtain ⟨actor, key, side, deadline, notice⟩ := x
  dsimp only at foreground
  subst foreground
  cases deadline with
  | none => exact ⟨_, rfl⟩
  | some d =>
    simp only [jump, run_bind, run_get, run_set, parked, followsClock, List.filter_cons_of_pos,
      List.filter_nil, List.foldl_cons, List.foldl_nil, List.forIn_cons, isPast, Option.any_some]
    split <;> exact ⟨_, rfl⟩

/-- **A call that waits** alone: it has its reply when its deadline is past, and is taken off the
list of those that wait if it is given up. -/
structure Waits (call : Call) (reply : Reply) (x : Waiter) : Prop where
  foreground : x.actor = .foreground
  turn : ∀ w, takeUp .foreground call (parked w x) =
    if isPast w x.deadline then ((call, some reply), { w with waiters := [] })
    else ((call, none), parked w x)
  quits : ∀ w, giveUp .foreground call (parked w x) = ((), { w with waiters := [] })

section

variable {call : Call} {reply : Reply} {x : Waiter} {alarm : Nat}

/-- A call that waits has its reply when its deadline comes, and none if it has no deadline. -/
theorem awaitUntil_parked (idle : Idle w) (waits : Waits call reply x)
    (first : takeUp .foreground call { w with woken := false } =
      ((call, none), parked { w with woken := false } x))
    (early : w.now < alarm) (patient : ∀ d ∈ x.deadline, d ≤ alarm) (turns : Nat) :
    ∃ now, awaitUntil alarm (takeUp .foreground) (turns + 1 + 1) call w =
      if x.deadline.isSome then
        ((call, some reply), { w with now := now, woken := false, waiters := [] })
      else ((call, none), parked { w with now := now, woken := false } x) := by
  obtain ⟨woken, jumped⟩ := jump_parked { w with woken := false } waits.foreground alarm
  refine ⟨max w.now (x.deadline.elim alarm (min alarm)), ?_⟩
  rw [awaitUntil_waiting first early idle.broke idle.ready rfl, jumped]
  cases deadline : x.deadline with
  | none =>
    have taken := waits.turn { w with now := max w.now alarm, woken := false }
    rw [deadline] at taken
    exact awaitUntil_over taken (Nat.le_max_right w.now alarm) turns
  | some d =>
    have soon := patient d deadline
    have past : d ≤ max w.now (min alarm d) := by omega
    have taken := waits.turn { w with now := max w.now (min alarm d), woken := false }
    rw [deadline, isPast_some, if_pos (decide_eq_true past)] at taken
    exact awaitUntil_settled taken turns

end

/-- The reply of a call, if it has one. -/
def Outcome.reply? : Outcome → Option Reply
  | .replied r _ => some r
  | .blocked | .broken => none

/-- **How a call of a script ends**: with a reply or without one, and in an idle world. -/
def Ends (w : World) (call : Call) (reply : Option Reply) (r : Recording) : Prop :=
  ∃ outcome w', inForeground call w = (outcome, w') ∧ outcome.reply? = reply ∧ Idle w' ∧
    w'.recording = r

/-- A call that got its reply. -/
theorem inForeground_replied {call call' : Call} {reply : Reply} {w' : World}
    (awaited : awaitUntil (w.now + foregroundLimit) (takeUp .foreground) patience call w =
      ((call', some reply), w')) :
    inForeground call w = (.replied reply (millisSince w' w.now), w') := by
  unfold inForeground
  simp only [run_bind, run_get]
  rw [awaited]
  rfl

/-- A call that still waits when its time is over. -/
theorem inForeground_blocked {call call' : Call} {w' w'' : World}
    (awaited : awaitUntil (w.now + foregroundLimit) (takeUp .foreground) patience call w =
      ((call', none), w'))
    (broke : w'.broke = false)
    (quits : giveUp .foreground call' { w' with broke := false } = ((), w'')) :
    inForeground call w = (.blocked, w'') := by
  unfold inForeground
  simp only [run_bind, run_get]
  rw [awaited]
  simp only [run_bind, run_set, quits, broke, Bool.false_eq_true, if_false]
  rfl

/-- A call that is settled by its first turn. -/
theorem ends_settled {call : Call} {reply : Reply} {r : Recording} (idle : Idle w)
    (taken : takeUp .foreground call { w with woken := false } =
      ((call, some reply), { w with recording := r, woken := false })) :
    Ends w call (some reply) r :=
  ⟨_, _, inForeground_replied (awaitUntil_settled taken 99999), rfl, idle.again r false, rfl⟩

/-- A call that has to wait, until its deadline if it has one. -/
theorem ends_parked {call : Call} {reply : Reply} {x : Waiter} (idle : Idle w)
    (waits : Waits call reply x)
    (first : takeUp .foreground call { w with woken := false } =
      ((call, none), parked { w with woken := false } x))
    (patient : ∀ d ∈ x.deadline, d ≤ w.now + foregroundLimit) :
    Ends w call (x.deadline.map fun _ => reply) w.recording := by
  have early : w.now < w.now + foregroundLimit := Nat.lt_add_of_pos_right (by decide)
  obtain ⟨turns, enough⟩ : ∃ turns, patience = turns + 1 + 1 := ⟨99998, rfl⟩
  obtain ⟨now, awaited⟩ := awaitUntil_parked idle waits first early patient turns
  rw [← enough] at awaited
  cases deadline : x.deadline with
  | none =>
    rw [deadline, Option.isSome_none, if_neg Bool.false_ne_true] at awaited
    exact ⟨.blocked, { w with now := now, woken := false, broke := false, waiters := [] },
      inForeground_blocked awaited idle.broke
        (waits.quits { w with now := now, woken := false, broke := false }), rfl,
      ⟨idle.records, rfl, idle.ready, idle.faults, rfl⟩, rfl⟩
  | some d =>
    rw [deadline, Option.isSome_some, if_pos rfl] at awaited
    exact ⟨_, { w with now := now, woken := false, waiters := [] }, inForeground_replied awaited,
      rfl, ⟨idle.records, rfl, idle.ready, idle.faults, idle.broke⟩, rfl⟩

/-- A wait that a call in the foreground can wait to its end. -/
def Patient (wait : WaitPolicy) : Prop := ∀ d ∈ wait.limit, d.toNanos ≤ foregroundLimit

instance (wait : WaitPolicy) : Decidable (Patient wait) :=
  inferInstanceAs (Decidable (∀ d ∈ wait.limit, d.toNanos ≤ foregroundLimit))

/-- The clock reaches the end of such a wait, if it reaches that of the foreground's patience. -/
theorem Patient.reached {wait : WaitPolicy} (patient : Patient wait) {t : Transport}
    (clock : foregroundLimit ≤ t.reach) : t.reaches wait = true :=
  Transport.reaches_iff.mpr fun limit limited => (patient limit limited).trans clock

/-- A call that its first turn does not settle: it has its reply if it waits for a limited time,
which may be over at once. -/
theorem ends_unsettled {call : Call} {reply : Reply} {x : Waiter} {wait : WaitPolicy}
    (idle : Idle w) (patient : Patient wait) (waits : Waits call reply x)
    (deadline : x.deadline = deadlineOf w wait)
    (first : takeUp .foreground call { w with woken := false } =
      if isPast w x.deadline then ((call, some reply), { w with woken := false })
      else ((call, none), parked { w with woken := false } x)) :
    Ends w call (wait.limit.map fun _ => reply) w.recording := by
  have limit : (wait.limit.map fun _ => reply) = x.deadline.map fun _ => reply := by
    rw [deadline, deadlineOf, Option.map_map]
    rfl
  rw [limit]
  cases past : isPast w x.deadline with
  | true =>
    obtain ⟨d, due, -⟩ := (Option.any_eq_true _ _).mp past
    rw [past, if_pos rfl] at first
    rw [due]
    exact ends_settled idle first
  | false =>
    rw [past, if_neg Bool.false_ne_true] at first
    refine ends_parked idle waits first fun d due => ?_
    rw [deadline] at due
    obtain ⟨limit, limited, rfl⟩ := Option.map_eq_some_iff.mp due
    exact Nat.add_le_add_left (patient limit limited) w.now

/-! ## A send and a receive -/

section

variable {key : ChannelKey} {m : Message} {n : Nat} {wait : WaitPolicy}

/-- A send that waits. -/
def sender (key : ChannelKey) (deadline : Option Nat) : Waiter :=
  { actor := .foreground, key := key, side := .writing, deadline := deadline }

/-- A receive that waits. -/
def receiver (key : ChannelKey) (deadline : Option Nat) : Waiter :=
  { actor := .foreground, key := key, side := .reading, deadline := deadline }

namespace Idle

/-- A send that begins: a marked channel refuses it. -/
theorem send (idle : Idle w) (key : ChannelKey) (m : Message) (wait : WaitPolicy) :
    send .foreground key m wait w = match w.recording.injected? key with
      | some e => (some (.error e), w)
      | none => attemptSend .foreground key m wait (deadlineOf w wait) w := by
  unfold Scenario.send
  simp only [run_bind, run_get, idle.waiter?, idle.strikeChannel]
  cases w.recording.injected? key <;> rfl

/-- A receive that begins. -/
theorem receive (idle : Idle w) (key : ChannelKey) (wait : WaitPolicy) :
    receive .foreground key wait w = attemptReceive .foreground key (deadlineOf w wait) w := by
  unfold Scenario.receive
  simp only [run_bind, run_get, idle.waiter?, idle.strikeChannel]

theorem attemptSend_settled (idle : Idle w) {result : Except TransportError Unit} {t : Transport}
    (tried : w.recording.transport.trySend key m = (some result, t)) (deadline : Option Nat) :
    attemptSend .foreground key m wait deadline w =
      (some result, { w with recording :=
        { w.recording with transport := t }.afterSend key m (some result) }) := by
  unfold attemptSend
  simp only [run_bind, run_get, run_set, Recording.trySend, tried]
  cases result with
  | error e => rfl
  | ok => simp only [run_bind, (idle.again _ w.woken).notifyOne]; rfl

/-- A call that cannot be settled now is over or waits. -/
theorem over_or_parked (idle : Idle w) (x : Waiter) (given waiting : α) :
    (if isPast w x.deadline then pure given else register x >>= fun _ => pure waiting : Step α) w =
      if isPast w x.deadline then (given, w) else (waiting, parked w x) := by
  have registered : register x w = ((), parked w x) := by
    show ((), { w with waiters := w.waiters ++ [x] }) = _
    rw [idle.waiters]
    rfl
  split
  · rfl
  · rw [run_bind, registered]
    rfl

theorem attemptSend_full (idle : Idle w)
    (tried : w.recording.transport.trySend key m = (none, w.recording.transport))
    (deadline : Option Nat) :
    attemptSend .foreground key m wait deadline w =
      if isPast w deadline then (some (.error (.ofWait key wait)), w)
      else (none, parked w (sender key deadline)) := by
  unfold attemptSend
  simp only [run_bind, run_get, run_set, Recording.trySend, tried, Recording.afterSend]
  exact idle.over_or_parked (sender key deadline) _ _

theorem attemptReceive_settled (idle : Idle w) {result : Option Message} {t : Transport}
    (tried : w.recording.transport.tryReceive key = (some result, t)) (deadline : Option Nat) :
    attemptReceive .foreground key deadline w =
      (some (.ok result), { w with recording := { w.recording with transport := t } }) := by
  unfold attemptReceive
  simp only [run_bind, run_get, run_set, tried]
  cases result with
  | none => rfl
  | some m => simp only [run_bind, (idle.again _ w.woken).notifyOne]; rfl

theorem attemptReceive_empty (idle : Idle w)
    (tried : w.recording.transport.tryReceive key = (none, w.recording.transport))
    (deadline : Option Nat) :
    attemptReceive .foreground key deadline w =
      if isPast w deadline then (some (.ok none), w)
      else (none, parked w (receiver key deadline)) := by
  unfold attemptReceive
  simp only [run_bind, run_get, run_set, tried]
  exact idle.over_or_parked (receiver key deadline) _ _

end Idle

/-- A call that waits, taken up again, is over or goes on to wait. -/
theorem over_or_still (w : World) {x : Waiter} (foreground : x.actor = .foreground)
    (given waiting : α) :
    (if isPast w x.deadline then unregister .foreground >>= fun _ => pure given
      else pure waiting : Step α) (parked w x) =
      if isPast w x.deadline then (given, { w with waiters := [] }) else (waiting, parked w x) := by
  have unregistered : unregister .foreground (parked w x) = ((), { w with waiters := [] }) := by
    show ((), { w with waiters := [x].filter fun (y : Waiter) => y.actor ≠ Actor.foreground }) = _
    rw [List.filter_singleton, foreground]
    rfl
  split
  · rw [run_bind, unregistered]
    rfl
  · rfl

theorem send_parked (w : World) (key : ChannelKey) (m : Message) (wait : WaitPolicy)
    (deadline : Option Nat) :
    send .foreground key m wait (parked w (sender key deadline)) =
      if isPast w deadline then (some (.error (.ofWait key wait)), { w with waiters := [] })
      else (none, parked w (sender key deadline)) :=
  over_or_still w (x := sender key deadline) rfl _ _

theorem receive_parked (w : World) (key : ChannelKey) (wait : WaitPolicy)
    (deadline : Option Nat) :
    receive .foreground key wait (parked w (receiver key deadline)) =
      if isPast w deadline then (some (.ok none), { w with waiters := [] })
      else (none, parked w (receiver key deadline)) :=
  over_or_still w (x := receiver key deadline) rfl _ _

theorem takeUp_send (n : Nat) (key : ChannelKey) (m : Message) (wait : WaitPolicy) (w : World) :
    takeUp .foreground (.send n key m wait) w =
      ((.send n key m wait, (send .foreground key m wait w).1.map (.sent m.id)),
        (send .foreground key m wait w).2) := rfl

theorem takeUp_receive (n : Nat) (key : ChannelKey) (wait : WaitPolicy) (w : World) :
    takeUp .foreground (.receive n key wait) w =
      ((.receive n key wait, (receive .foreground key wait w).1.map .received),
        (receive .foreground key wait w).2) := rfl

/-- A turn of a send that may go on to wait. -/
theorem takeUp_send_ite {c : Prop} [Decidable c] {result : Except TransportError Unit}
    {w₁ w₂ : World} (turn : send .foreground key m wait w =
      if c then (some result, w₁) else (none, w₂)) :
    takeUp .foreground (.send n key m wait) w =
      if c then ((.send n key m wait, some (.sent m.id result)), w₁)
      else ((.send n key m wait, none), w₂) := by
  rw [takeUp_send, turn]
  split <;> rfl

theorem takeUp_receive_ite {c : Prop} [Decidable c]
    {result : Except TransportError (Option Message)} {w₁ w₂ : World}
    (turn : receive .foreground key wait w = if c then (some result, w₁) else (none, w₂)) :
    takeUp .foreground (.receive n key wait) w =
      if c then ((.receive n key wait, some (.received result)), w₁)
      else ((.receive n key wait, none), w₂) := by
  rw [takeUp_receive, turn]
  split <;> rfl

theorem waits_send (n : Nat) (key : ChannelKey) (m : Message) (wait : WaitPolicy)
    (deadline : Option Nat) :
    Waits (.send n key m wait) (.sent m.id (.error (.ofWait key wait))) (sender key deadline) where
  foreground := rfl
  turn w := takeUp_send_ite (send_parked w key m wait deadline)
  quits _ := rfl

theorem waits_receive (n : Nat) (key : ChannelKey) (wait : WaitPolicy) (deadline : Option Nat) :
    Waits (.receive n key wait) (.received (.ok none)) (receiver key deadline) where
  foreground := rfl
  turn w := takeUp_receive_ite (receive_parked w key wait deadline)
  quits _ := rfl

namespace Idle

/-- **A send in the foreground is one that nobody disturbs.** -/
theorem ends_send (idle : Idle w) (clock : foregroundLimit ≤ w.recording.transport.reach)
    (patient : Patient wait) (n : Nat) (h : Handle) (m : Message) :
    Ends w (.send n h.key m wait) ((w.recording.sendAlone h m wait).1.map (.sent m.id))
      (w.recording.sendAlone h m wait).2 := by
  have fresh := idle.again w.recording false
  have begun := fresh.send h.key m wait
  by_cases marked : h.key ∈ w.recording.journal.failing
  · rw [Recording.sendAlone_marked marked]
    have refusal : w.recording.injected? h.key = some (Recording.injected h.key) := if_pos marked
    simp only [refusal] at begun
    exact ends_settled idle (by rw [takeUp_send, begun]; rfl)
  · rw [Recording.sendAlone_unmarked marked, Transport.sendAlone_reached (patient.reached clock)]
    have passes : w.recording.injected? h.key = none := if_neg marked
    simp only [passes] at begun
    rcases tried : w.recording.transport.trySend h.key m with ⟨_ | result, t⟩
    · obtain rfl := Transport.trySend_unsettled tried
      rw [fresh.attemptSend_full tried] at begun
      have ends := ends_unsettled idle patient (waits_send n h.key m wait (deadlineOf w wait)) rfl
        (takeUp_send_ite begun)
      cases limited : wait.limit with
      | none | some d =>
        rw [limited] at ends
        exact ends
    · rw [fresh.attemptSend_settled tried] at begun
      exact ends_settled idle (by rw [takeUp_send, begun]; rfl)

/-- **A receive in the foreground is one that nobody disturbs.** -/
theorem ends_receive (idle : Idle w) (clock : foregroundLimit ≤ w.recording.transport.reach)
    (patient : Patient wait) (n : Nat) (h : Handle) :
    Ends w (.receive n h.key wait)
      ((w.recording.receiveAlone h wait).1.map fun answer => .received (.ok answer))
      (w.recording.receiveAlone h wait).2 := by
  have fresh := idle.again w.recording false
  have begun := fresh.receive h.key wait
  rw [Recording.receiveAlone, Transport.receiveAlone_reached (patient.reached clock)]
  rcases tried : w.recording.transport.tryReceive h.key with ⟨_ | result, t⟩
  · obtain rfl := Transport.tryReceive_unsettled tried
    rw [fresh.attemptReceive_empty tried] at begun
    have ends := ends_unsettled idle patient (waits_receive n h.key wait (deadlineOf w wait)) rfl
      (takeUp_receive_ite begun)
    cases limited : wait.limit with
    | none | some d =>
      rw [limited] at ends
      exact ends
  · rw [fresh.attemptReceive_settled tried] at begun
    exact ends_settled idle (by rw [takeUp_receive, begun]; rfl)

end Idle

end

end ChannelRouting.Scenario
