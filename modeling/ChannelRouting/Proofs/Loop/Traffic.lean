import ChannelRouting.Proofs.Loop.Course

/-!
# The messages a run takes and hands over

Of the deeds of a run, `receipts` are the messages that came from a channel and
`deliveries` the ones that went to a channel, both in order. Of a course both can be
read off its rounds: the receipts are the messages that were taken, and the deliveries
to a target are the messages of the rounds in which the target took its message. So a
target gets at most one copy of each message that was received, in the order of the
receipts (`deliveries_sublist`).
-/

namespace ChannelRouting.Loop

/-- The message that a deed took from a channel. -/
def Deed.receipt? (source : ChannelKey) : Deed → Option Message
  | .received key (.ok (some m)) => if key = source then some m else none
  | _ => none

/-- The message that a deed handed over to a channel. -/
def Deed.delivery? (target : ChannelKey) : Deed → Option Message
  | .sent key m (.ok ()) => if key = target then some m else none
  | _ => none

/-- The messages that came from a channel. -/
def receipts (source : ChannelKey) (deeds : List Deed) : List Message :=
  deeds.filterMap (Deed.receipt? source)

/-- The messages that a channel took. -/
def deliveries (target : ChannelKey) (deeds : List Deed) : List Message :=
  deeds.filterMap (Deed.delivery? target)

theorem receipts_append (source : ChannelKey) (d₁ d₂ : List Deed) :
    receipts source (d₁ ++ d₂) = receipts source d₁ ++ receipts source d₂ := List.filterMap_append

theorem deliveries_append (target : ChannelKey) (d₁ d₂ : List Deed) :
    deliveries target (d₁ ++ d₂) = deliveries target d₁ ++ deliveries target d₂ :=
  List.filterMap_append

theorem receipts_received_cons (key : ChannelKey) (m : Message) (deeds : List Deed) :
    receipts key (.received key (.ok (some m)) :: deeds) = m :: receipts key deeds := by
  have own : Deed.receipt? key (.received key (.ok (some m))) = some m := if_pos rfl
  exact List.filterMap_cons_some own

theorem receipts_received_of_ne {source key : ChannelKey} (h : key ≠ source)
    (answer : Option (Except TransportError (Option Message))) :
    receipts source (answer.toList.map (.received key)) = [] := by
  rcases answer with _ | e | _ | m
  · rfl
  · rfl
  · rfl
  · simp only [receipts, Option.toList_some, List.map_cons, List.map_nil, List.filterMap_cons,
      Deed.receipt?, if_neg h, List.filterMap_nil]

theorem deliveries_sent_self (key : ChannelKey) (m : Message) :
    deliveries key [.sent key m (.ok ())] = [m] := by
  simp only [deliveries, List.filterMap_cons, Deed.delivery?, if_true, List.filterMap_nil]

theorem deliveries_sent_of_ne {target key : ChannelKey} (h : key ≠ target) (m : Message)
    (answer : Option (Except TransportError Unit)) :
    deliveries target (answer.toList.map (.sent key m)) = [] := by
  rcases answer with _ | e | _
  · rfl
  · rfl
  · simp only [deliveries, Option.toList_some, List.map_cons, List.map_nil, List.filterMap_cons,
      Deed.delivery?, if_neg h, List.filterMap_nil]

/-- Where no send succeeded, nothing was delivered. -/
theorem deliveries_eq_nil {target : ChannelKey} {deeds : List Deed}
    (unsent : ∀ m, .sent target m (.ok ()) ∉ deeds) : deliveries target deeds = [] := by
  refine List.filterMap_eq_nil_iff.mpr fun d hd => ?_
  cases d with
  | sent key m a =>
    rcases a with e | _
    · rfl
    · refine if_neg fun same => ?_
      subst same
      exact unsent m hd
  | _ => rfl

/-! ## Receipts -/

theorem receipts_attempts (source : ChannelKey) (m : Message) (attempts : List Attempt) :
    receipts source (attempts.flatMap (Attempt.deeds m)) = [] := by
  induction attempts with
  | nil => rfl
  | cons a rest ih =>
    rw [List.flatMap_cons, receipts_append, ih]
    cases a <;> rfl

theorem receipts_underway (source : ChannelKey) (m : Message) (e : Entry)
    (attempts : List Attempt) : receipts source (underway source m e attempts) = [m] := by
  rw [underway, receipts_received_cons]
  exact congrArg (m :: ·) (receipts_attempts source m attempts)

theorem receipts_trailed (source : ChannelKey) (rounds : List Round) :
    receipts source (trailed source rounds) = rounds.map Round.message := by
  show receipts source (rounds.flatMap (Round.deeds source)) = _
  induction rounds with
  | nil => rfl
  | cons r rest ih =>
    rw [List.flatMap_cons, receipts_append, ih]
    show receipts source (underway source r.message r.entry r.attempts) ++ _ = _
    rw [receipts_underway]
    rfl

theorem receipts_course (source : ChannelKey) (c : Course) :
    receipts source (c.deeds source) = c.taken := by
  cases c with
  | unopened e => rfl
  | opened rounds ending =>
    simp only [Course.deeds, receipts_append, receipts_trailed]
    cases ending with
    | drained => rfl
    | failed e => rfl
    | absent m =>
      rw [Ending.deeds, receipts_received_cons]
      rfl
    | unreadable m e =>
      rw [Ending.deeds, receipts_received_cons]
      rfl

/-! ## Deliveries -/

/-- Whether an attempt handed the message to a target. -/
def Attempt.reaches (t : ChannelKey) : Attempt → Bool
  | unopened .. | refused .. => false
  | delivered target => decide (target = t)

/-- Whether a target took the message of a round. -/
def Round.delivers (t : ChannelKey) (r : Round) : Bool := r.attempts.any (Attempt.reaches t)

theorem Attempt.target_of_reaches {t : ChannelKey} {a : Attempt} (h : a.reaches t = true) :
    a.target = t := by
  cases a with
  | unopened k e => cases h
  | refused k e => cases h
  | delivered k => exact of_decide_eq_true h

theorem deliveries_attempt (t : ChannelKey) (m : Message) (a : Attempt) :
    deliveries t (a.deeds m) = if a.reaches t then [m] else [] := by
  cases a with
  | unopened k e => rfl
  | refused k e => rfl
  | delivered k =>
    show deliveries t [.sent k m (.ok ())] = if decide (k = t) then [m] else []
    by_cases hk : k = t
    · subst hk
      rw [deliveries_sent_self, decide_eq_true rfl]
      rfl
    · rw [decide_eq_false hk]
      exact deliveries_sent_of_ne hk m (some (.ok ()))

/-- Attempts at different targets hand the message to one of them at most once. -/
theorem deliveries_attempts (t : ChannelKey) (m : Message) (attempts : List Attempt)
    (once : (attempts.map Attempt.target).Nodup) :
    deliveries t (attempts.flatMap (Attempt.deeds m)) =
      if attempts.any (Attempt.reaches t) then [m] else [] := by
  induction attempts with
  | nil => rfl
  | cons a rest ih =>
    obtain ⟨fresh, once⟩ := List.nodup_cons.mp once
    rw [List.flatMap_cons, deliveries_append, deliveries_attempt, ih once, List.any_cons]
    by_cases ha : a.reaches t = true
    · have others : rest.any (Attempt.reaches t) = false := by
        refine List.any_eq_false.mpr fun b hb hr => fresh ?_
        rw [Attempt.target_of_reaches ha, ← Attempt.target_of_reaches hr]
        exact List.mem_map_of_mem hb
      simp only [ha, others, if_true, Bool.or_false, Bool.false_eq_true, if_false, List.append_nil]
    · simp only [ha, if_false, List.nil_append, Bool.false_or, Bool.false_eq_true]

/-- The targets of a message are different. -/
theorem targets_nodup (e : Entry) (m : Message) : (e.targets m).toList.Nodup :=
  (e.targets m).ascending.imp KeyOrder.ne_of_lt

theorem deliveries_underway (source t : ChannelKey) (m : Message) (e : Entry)
    (attempts : List Attempt) :
    deliveries t (underway source m e attempts) =
      deliveries t (attempts.flatMap (Attempt.deeds m)) := rfl

theorem deliveries_round (source t : ChannelKey) (r : Round) :
    deliveries t (r.deeds source) = if r.delivers t then [r.message] else [] :=
  deliveries_attempts t r.message r.attempts (r.complete ▸ targets_nodup r.entry r.message)

theorem deliveries_trailed (source t : ChannelKey) (rounds : List Round) :
    deliveries t (trailed source rounds) = (rounds.filter (Round.delivers t)).map Round.message := by
  show deliveries t (rounds.flatMap (Round.deeds source)) = _
  induction rounds with
  | nil => rfl
  | cons r rest ih =>
    rw [List.flatMap_cons, deliveries_append, deliveries_round, ih]
    by_cases hr : r.delivers t = true
    · rw [if_pos hr, List.filter_cons_of_pos hr]
      rfl
    · rw [if_neg hr, List.filter_cons_of_neg hr]
      rfl

theorem deliveries_course (source t : ChannelKey) (c : Course) :
    deliveries t (c.deeds source) = (c.rounds.filter (Round.delivers t)).map Round.message := by
  cases c with
  | unopened e => rfl
  | opened rounds ending =>
    simp only [Course.deeds, deliveries_append, deliveries_trailed]
    cases ending <;> exact List.append_nil _

/-- **In the order of the receipts, and at most once**: what a target took of a run. -/
theorem deliveries_sublist (source t : ChannelKey) (c : Course) :
    (deliveries t (c.deeds source)).Sublist (receipts source (c.deeds source)) := by
  rw [deliveries_course, receipts_course]
  exact (List.filter_sublist.map Round.message).trans (List.sublist_append_left ..)

theorem deliveries_trailed_sublist (source t : ChannelKey) (rounds : List Round) :
    (deliveries t (trailed source rounds)).Sublist (receipts source (trailed source rounds)) := by
  rw [deliveries_trailed, receipts_trailed]
  exact List.filter_sublist.map Round.message

/-- Of a round that is not complete, a target gets the message at most once. -/
theorem deliveries_part_sublist (source t : ChannelKey) (part : Part) :
    (deliveries t (part.deeds source)).Sublist (receipts source (part.deeds source)) := by
  cases part with
  | nothing => exact List.Sublist.refl []
  | taken m => exact List.nil_sublist _
  | underway m e attempts opened begun =>
    have once : (attempts.map Attempt.target).Nodup :=
      ((List.sublist_append_left _ _).trans begun.sublist).nodup (targets_nodup e m)
    have none_sent : deliveries t (opened.toList.map fun k => .opened k (.ok ())) = [] := by
      cases opened <;> rfl
    have none_taken : receipts source (opened.toList.map fun k => .opened k (.ok ())) = [] := by
      cases opened <;> rfl
    rw [Part.deeds, deliveries_append, receipts_append, none_sent, none_taken, List.append_nil,
      List.append_nil, receipts_underway, deliveries_underway, deliveries_attempts t m attempts once]
    split
    · exact List.Sublist.refl [m]
    · exact List.nil_sublist [m]

/-- The same of a run that has not ended. -/
theorem Begun.deliveries_sublist {source : ChannelKey} {deeds : List Deed} (h : Begun source deeds)
    (t : ChannelKey) : (deliveries t deeds).Sublist (receipts source deeds) := by
  cases h with
  | unstarted => exact List.Sublist.refl []
  | going rounds part =>
    rw [deliveries_append, receipts_append]
    exact (deliveries_trailed_sublist source t rounds).append (deliveries_part_sublist source t part)
  | ended c => exact Loop.deliveries_sublist source t c

end ChannelRouting.Loop
