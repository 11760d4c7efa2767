import ChannelRouting.Transport

/-!
# Messages are conserved

Every call of a transport leaves the books of every channel balanced: what was queued,
followed by what was put in, is what was taken out, followed by what is queued now
(`Conserves`). Calls that follow one another balance together (`Conserves.trans`), so
the law holds of any sequence of them.
-/

namespace ChannelRouting.Transport

/-- The messages of a channel. -/
def messages (t : Transport) (key : ChannelKey) : List Message := (t.queue key).messages

theorem queue_withQueue_self (t : Transport) (key : ChannelKey) (q : Queue) :
    (t.withQueue key q).queue key = q := by
  simp only [queue, withQueue, SortedMap.get?_insert_self, Option.getD_some]

theorem queue_withQueue_of_ne {t : Transport} {key k : ChannelKey} {q : Queue} (h : k ≠ key) :
    (t.withQueue key q).queue k = t.queue k := by
  simp only [queue, withQueue, SortedMap.get?_insert_of_ne h]

/-- **The law of every call**: the messages `given` to a channel go behind those it has, and the
messages `taken` from it are the first. -/
def Conserves (t : Transport) (given taken : ChannelKey → List Message) (t' : Transport) : Prop :=
  ∀ k, t.messages k ++ given k = taken k ++ t'.messages k

/-- Nothing is put in or taken out anywhere. -/
def nowhere : ChannelKey → List Message := fun _ => []

/-- Messages at one channel. -/
def only (key : ChannelKey) (ms : List Message) : ChannelKey → List Message :=
  fun k => if k = key then ms else []

theorem conserves_refl (t : Transport) : t.Conserves nowhere nowhere t :=
  fun k => List.append_nil (t.messages k)

theorem Conserves.trans {t t₁ t₂ : Transport} {given taken given₁ taken₁ : ChannelKey → List Message}
    (h : t.Conserves given taken t₁) (h₁ : t₁.Conserves given₁ taken₁ t₂) :
    t.Conserves (fun k => given k ++ given₁ k) (fun k => taken k ++ taken₁ k) t₂ := by
  intro k
  rw [← List.append_assoc, h k, List.append_assoc, h₁ k, List.append_assoc]

/-- A call that changes one queue. -/
theorem conserves_withQueue {t : Transport} {key : ChannelKey} {q : Queue} {given taken : List Message}
    (h : t.messages key ++ given = taken ++ q.messages) :
    t.Conserves (only key given) (only key taken) (t.withQueue key q) := by
  intro k
  by_cases hk : k = key
  · subst hk
    simp only [only, if_true, messages, queue_withQueue_self]
    exact h
  · simp only [only, if_neg hk, messages, queue_withQueue_of_ne hk, List.append_nil, List.nil_append]

/-- Calls that move no message anywhere. -/
theorem only_nil (key : ChannelKey) : only key [] = nowhere := by
  funext k
  simp only [only, nowhere, ite_self]

/-! ## The calls -/

/-- The messages that a receive has taken. -/
def takenBy : Option (Option Message) → List Message
  | some (some m) => [m]
  | _ => []

/-- The messages that a send has put in. -/
def givenBy (m : Message) : Option (Except TransportError Unit) → List Message
  | some (.ok ()) => [m]
  | _ => []

theorem conserves_tryReceive (t : Transport) (key : ChannelKey) :
    t.Conserves nowhere (only key (takenBy (t.tryReceive key).1)) (t.tryReceive key).2 := by
  unfold tryReceive
  cases hq : (t.queue key).messages with
  | nil =>
    cases (t.queue key).closed with
    | true => exact only_nil key ▸ conserves_refl t
    | false => exact only_nil key ▸ conserves_refl t
  | cons m rest =>
    rw [← only_nil key]
    refine conserves_withQueue ?_
    rw [messages, hq]
    exact List.append_nil _

theorem conserves_trySend (t : Transport) (key : ChannelKey) (m : Message) :
    t.Conserves (only key (givenBy m (t.trySend key m).1)) nowhere (t.trySend key m).2 := by
  unfold trySend
  by_cases closed : (t.queue key).closed = true
  · simp only [closed, if_true]
    exact only_nil key ▸ conserves_refl t
  · simp only [closed, if_false, Bool.false_eq_true]
    by_cases room : t.hasRoom (t.queue key).messages.length = true
    · simp only [room, if_true]
      rw [← only_nil key]
      exact conserves_withQueue rfl
    · simp only [room, if_false, Bool.false_eq_true]
      exact only_nil key ▸ conserves_refl t

/-- A receive that waits takes what an attempt takes, or breaks off before it. -/
theorem conserves_receiveAlone (t : Transport) (key : ChannelKey) (wait : WaitPolicy) :
    t.Conserves nowhere (only key (takenBy (t.receiveAlone key wait).1))
      (t.receiveAlone key wait).2 := by
  have tried := conserves_tryReceive t key
  unfold receiveAlone
  split
  · cases hr : t.tryReceive key with
    | mk answer t' =>
      rw [hr] at tried
      cases answer with
      | some r => exact tried
      | none => cases wait.limit <;> exact tried
  · exact only_nil key ▸ conserves_refl t

/-- A send that waits puts in what an attempt puts in, or breaks off before it. -/
theorem conserves_sendAlone (t : Transport) (key : ChannelKey) (m : Message) (wait : WaitPolicy) :
    t.Conserves (only key (givenBy m (t.sendAlone key m wait).1)) nowhere
      (t.sendAlone key m wait).2 := by
  have tried := conserves_trySend t key m
  unfold sendAlone
  split
  · cases hr : t.trySend key m with
    | mk answer t' =>
      rw [hr] at tried
      cases answer with
      | some r => exact tried
      | none => cases wait.limit <;> exact tried
  · exact only_nil key ▸ conserves_refl t

theorem conserves_enqueue (t : Transport) (key : ChannelKey) (m : Message) :
    t.Conserves (only key (givenBy m (some (t.enqueue key m).1))) nowhere (t.enqueue key m).2 := by
  have tried := conserves_trySend t key m
  unfold enqueue
  cases hr : t.trySend key m with
  | mk answer t' =>
    rw [hr] at tried
    cases answer with
    | some r => exact tried
    | none => exact tried

theorem conserves_close (t : Transport) (key : ChannelKey) :
    t.Conserves nowhere nowhere (t.close key) := by
  rw [← only_nil key]
  exact conserves_withQueue (List.append_nil _)

end ChannelRouting.Transport
