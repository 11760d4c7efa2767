import ChannelRouting.Node
import ChannelRouting.Proofs.Loop.Calls
import ChannelRouting.Proofs.Transport.Conservation

/-!
# Loops over a node

What a loop does to its node (`Node.Effect`): messages go where the loop sends them and
come from where it receives them, the store is as it was, and what the loop reads is
what the store has. This holds whether the loop waits for others or has the node to
itself, so over either access the channels of a node are queues (`fifo_of_law`).
-/

namespace ChannelRouting.Node

open Loop (Access Deed deliveries receipts)

/-- **What some deeds of a loop do to its node.** -/
structure Effect (n : Node) (deeds : List Deed) (n' : Node) : Prop where
  conserves : n.transport.Conserves (fun k => deliveries k deeds) (fun k => receipts k deeds)
    n'.transport
  store : n'.store = n.store
  read : ∀ key a, .read key a ∈ deeds → a = .ok (n.store.entry? key)

theorem effect_refl (n : Node) : Effect n [] n :=
  ⟨Transport.conserves_refl n.transport, rfl, fun _ _ h => nomatch h⟩

theorem Effect.trans {n n₁ n₂ : Node} {d₁ d₂ : List Deed} (h₁ : Effect n d₁ n₁)
    (h₂ : Effect n₁ d₂ n₂) : Effect n (d₁ ++ d₂) n₂ where
  conserves := by
    simp only [Loop.deliveries_append, Loop.receipts_append]
    exact h₁.conserves.trans h₂.conserves
  store := h₂.store.trans h₁.store
  read key a h := by
    rcases List.mem_append.mp h with h | h
    · exact h₁.read key a h
    · exact h₁.store ▸ h₂.read key a h

theorem effect_open (n : Node) (key : ChannelKey) :
    Effect n ((openChannel key n).1.toList.map (.opened key)) (openChannel key n).2 :=
  ⟨Transport.conserves_refl n.transport, rfl, fun _ _ h => nomatch List.mem_singleton.mp h⟩

theorem effect_release (n : Node) (key : ChannelKey) :
    Effect n [.released key] (releaseChannel key n).2 :=
  ⟨Transport.conserves_refl n.transport, rfl, fun _ _ h => nomatch List.mem_singleton.mp h⟩

theorem effect_read (n : Node) (key : ChannelKey) :
    Effect n [.read key (.ok (n.store.entry? key))] n := by
  refine ⟨Transport.conserves_refl n.transport, rfl, fun key' a h => ?_⟩
  cases List.mem_singleton.mp h
  rfl

/-- What a receive takes is what is listed of it. -/
theorem effect_receive (n : Node) (key : ChannelKey) {answer : Option (Option Message)}
    {t : Transport} (h : n.transport.Conserves Transport.nowhere
      (Transport.only key (Transport.takenBy answer)) t) :
    Effect n ((answer.map .ok).toList.map (.received key)) { n with transport := t } := by
  have listed (k : ChannelKey) :
      Transport.only key (Transport.takenBy answer) k =
        receipts k ((answer.map .ok).toList.map (.received key)) := by
    rcases answer with _ | _ | m
    · simp only [Transport.takenBy, Transport.only, ite_self]
      rfl
    · simp only [Transport.takenBy, Transport.only, ite_self]
      rfl
    · by_cases hk : k = key
      · subst hk
        simp only [Transport.only, Transport.takenBy, if_true]
        exact (Loop.receipts_received_cons k m []).symm
      · simp only [Transport.only, if_neg hk]
        exact (Loop.receipts_received_of_ne (Ne.symm hk) _).symm
  refine ⟨fun k => ?_, rfl, fun k a hd => ?_⟩
  · have unsent : deliveries k ((answer.map .ok).toList.map (.received key)) = [] := by
      cases answer <;> rfl
    show n.transport.messages k ++ deliveries k _ = receipts k _ ++ t.messages k
    rw [unsent, ← listed]
    exact h k
  · cases answer with
    | none => cases hd
    | some m => cases List.mem_singleton.mp hd

/-- What a send puts in is what is listed of it. -/
theorem effect_send (n : Node) (key : ChannelKey) (m : Message)
    {answer : Option (Except TransportError Unit)} {t : Transport}
    (h : n.transport.Conserves (Transport.only key (Transport.givenBy m answer)) Transport.nowhere t) :
    Effect n (answer.toList.map (.sent key m)) { n with transport := t } := by
  have listed (k : ChannelKey) :
      Transport.only key (Transport.givenBy m answer) k =
        deliveries k (answer.toList.map (.sent key m)) := by
    rcases answer with _ | e | _
    · simp only [Transport.givenBy, Transport.only, ite_self]
      rfl
    · simp only [Transport.givenBy, Transport.only, ite_self]
      rfl
    · by_cases hk : k = key
      · subst hk
        simp only [Transport.only, Transport.givenBy, if_true]
        exact (Loop.deliveries_sent_self k m).symm
      · simp only [Transport.only, if_neg hk]
        exact (Loop.deliveries_sent_of_ne (Ne.symm hk) m _).symm
  refine ⟨fun k => ?_, rfl, fun k a hd => ?_⟩
  · have untaken : receipts k (answer.toList.map (.sent key m)) = [] := by
      cases answer <;> rfl
    show n.transport.messages k ++ deliveries k _ = receipts k _ ++ t.messages k
    rw [untaken, ← listed]
    exact h k
  · cases answer with
    | none => cases hd
    | some a => cases List.mem_singleton.mp hd

/-- A loop among others. -/
theorem law_loopAccess : loopAccess.Law Effect where
  refl := effect_refl
  trans := Effect.trans
  openChannel key n := effect_open n key
  receive key _ n := effect_receive n key (Transport.conserves_tryReceive n.transport key)
  readEntry key n := effect_read n key
  send key m _ n := effect_send n key m (Transport.conserves_trySend n.transport key m)
  release key n := effect_release n key
  emit _ n := effect_refl n

/-- A loop whose waits end as their policies say. -/
theorem law_soleLoopAccess : soleLoopAccess.Law Effect where
  refl := effect_refl
  trans := Effect.trans
  openChannel key n := effect_open n key
  receive key wait n :=
    effect_receive n key (Transport.conserves_receiveAlone n.transport key wait)
  readEntry key n := effect_read n key
  send key m wait n := effect_send n key m (Transport.conserves_sendAlone n.transport key m wait)
  release key n := effect_release n key
  emit _ n := effect_refl n

/-- Deeds that neither take messages from a channel nor put any there leave it as it is. -/
theorem Effect.messages_eq {n n' : Node} {deeds : List Deed} (h : Effect n deeds n')
    {source : ChannelKey} (given : deliveries source deeds = []) (taken : receipts source deeds = []) :
    n'.transport.messages source = n.transport.messages source := by
  have := h.conserves source
  simp only [given, taken, List.append_nil, List.nil_append] at this
  exact this.symm

/-- **The channels of a node are queues.** -/
theorem fifo_of_law {p : Access Node} (law : p.Law Effect) (source : ChannelKey) :
    p.Fifo source fun n => n.transport.messages source where
  received wait n m h := by
    have := (law.receive source wait n).conserves source
    rw [h] at this
    simp only [Option.toList_some, List.map_cons, List.map_nil, Loop.receipts_received_cons] at this
    exact (List.append_nil _).symm.trans this
  nothing wait n h := by
    refine (law.receive source wait n).messages_eq ?_ ?_
    · cases (p.receive source wait n).1 <;> rfl
    · rcases ha : (p.receive source wait n).1 with _ | e | _ | m
      · rfl
      · rfl
      · rfl
      · exact absurd ha (h m)
  elsewhere key wait n hk := by
    refine (law.receive key wait n).messages_eq ?_ ?_
    · cases (p.receive key wait n).1 <;> rfl
    · exact Loop.receipts_received_of_ne hk _
  sent key m wait n hk := by
    refine (law.send key m wait n).messages_eq ?_ ?_
    · exact Loop.deliveries_sent_of_ne hk m _
    · cases (p.send key m wait n).1 <;> rfl
  waited key m wait n h := by
    have none := law.send key m wait n
    rw [h] at none
    exact none.messages_eq rfl rfl
  opened key n := by
    refine (law.openChannel key n).messages_eq ?_ ?_
    · cases (p.openChannel key n).1 <;> rfl
    · cases (p.openChannel key n).1 <;> rfl
  read key n := (law.readEntry key n).messages_eq rfl rfl
  released key n := (law.release key n).messages_eq rfl rfl
  emitted e n := (law.emit e n).messages_eq rfl rfl

/-- **A loop leaves the store of its node alone.** -/
theorem keeps_of_law {p : Access Node} (law : p.Law Effect) : p.Keeps Node.store where
  opened key n := (law.openChannel key n).store
  received key wait n := (law.receive key wait n).store
  read key n := (law.readEntry key n).store
  sent key m wait n := (law.send key m wait n).store
  released key n := (law.release key n).store
  emitted e n := (law.emit e n).store

end ChannelRouting.Node
