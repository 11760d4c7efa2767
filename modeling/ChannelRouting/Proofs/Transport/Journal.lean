import ChannelRouting.Proofs.Transport.Ledger

/-!
# The journal beside the queues

A recording transport has two states that nothing ties together: the journal, and the queues of
the transport under it, which can also be enqueued on, drained and closed from the side. All its
clones and handles share both, so a call is the same through whichever of them it is made.

`Session.attend` is one call while nobody else is at work. Its answer is kept, and a call that
never returns is given up, so any calls can follow one another. `Dealt` is what a call can be, one
case for each way to answer; what a call does to the journal, the queues and the marks is read off
its cases, and what any calls do follows by induction. Of any calls it is shown that

* the journal of a channel has the messages whose sends returned with success (`sentTo_after`);
* what the channel accepted, told from its queue alone, is those messages and the enqueued ones,
  each in their order (`interleaved_made`), and it hands them out in that order (`conserved_made`);
* a send to a marked channel fails with the injected error, whatever the state of the channel, and
  any other send answers as the transport does (`attend_marked`, `attend_unmarked`);
* one who looks at another channel cannot tell whether a channel was marked
  (`Session.Alike.unmarking`).
-/

namespace ChannelRouting

/-- A list made of two others, each in its order. -/
inductive Interleaved {α : Type} : List α → List α → List α → Prop
  | nil : Interleaved [] [] []
  | left {l r all : List α} (a : α) : Interleaved l r all → Interleaved (a :: l) r (a :: all)
  | right {l r all : List α} (a : α) : Interleaved l r all → Interleaved l (a :: r) (a :: all)

namespace Interleaved

variable {α β : Type}

theorem append {l r all l' r' all' : List α} (h : Interleaved l r all)
    (h' : Interleaved l' r' all') : Interleaved (l ++ l') (r ++ r') (all ++ all') := by
  induction h with
  | nil => exact h'
  | left a _ ih => exact .left a ih
  | right a _ ih => exact .right a ih

/-- One list after the other. -/
theorem apart (l r : List α) : Interleaved l r (l ++ r) := by
  induction l with
  | nil =>
    induction r with
    | nil => exact .nil
    | cons a _ ih => exact .right a ih
  | cons a _ ih => exact .left a ih

/-- Lists that are put together piece by piece. -/
theorem flatMap {f g all : β → List α} {bs : List β}
    (h : ∀ b ∈ bs, Interleaved (f b) (g b) (all b)) :
    Interleaved (bs.flatMap f) (bs.flatMap g) (bs.flatMap all) := by
  induction bs with
  | nil => exact .nil
  | cons b rest ih =>
    simp only [List.flatMap_cons]
    exact (h b List.mem_cons_self).append (ih fun b' hb' => h b' (List.mem_cons_of_mem b hb'))

end Interleaved

/-- A released handle is known as one, and its release does nothing to the channels. -/
theorem Transport.release_eq (t : Transport) (h : Handle) :
    ∃ n, t.release h = ({ h with released := true }, { t with openHandles := n }) := by
  unfold release
  by_cases again : h.released = true
  · refine ⟨t.openHandles, ?_⟩
    rw [if_pos again, ← again]
  · exact ⟨t.openHandles - 1, if_neg again⟩

namespace Transport.Handled

variable {t t' : Transport}

/-- A refused message leaves everything as it is. -/
theorem eq_of_refused {key : ChannelKey} {m : Message} {e : TransportError}
    (h : Handled t (.offered key m (.error e)) t') : t' = t := by
  cases h <;> rfl

/-- What a channel has more than before is what the call gave it. -/
theorem drop_length {r : Reply} (h : Handled t r t') (key : ChannelKey) :
    (t'.messages key).drop (t.messages key).length = only r.key r.given key := by
  have balance := h.conserves key
  have either : r.given = [] ∨ r.taken = [] := by
    cases h
    case accepted => exact .inr rfl
    all_goals exact .inl rfl
  rcases either with none | none
  · rw [none, only_nil] at balance ⊢
    refine List.drop_eq_nil_of_le ?_
    have lengths := congrArg List.length balance
    simp only [nowhere, List.append_nil, List.length_append] at lengths
    omega
  · rw [none, only_nil] at balance
    rw [show t'.messages key = _ from balance.symm, List.drop_left]

end Transport.Handled

namespace Recording

open Transport (Handled only)

/-! ## Calls with their answers -/

/-- What a call answers that has returned. -/
inductive Answer where
  /-- A message was sent through a handle. -/
  | sent (key : ChannelKey) (m : Message) (result : Except TransportError Unit)
  /-- A channel was marked as failing. -/
  | marked (key : ChannelKey)
  /-- Any other call, which answers as the transport does. -/
  | plain (reply : Transport.Reply)
deriving DecidableEq

namespace Answer

def key : Answer → ChannelKey
  | sent k _ _ | marked k => k
  | plain reply => reply.key

/-- The messages that were sent with success. -/
def delivered : Answer → List Message
  | sent _ m (.ok ()) => [m]
  | _ => []

/-- The messages that were enqueued without a handle. -/
def enqueued : Answer → List Message
  | plain reply => reply.given
  | _ => []

/-- The messages that the channel handed out. -/
def taken : Answer → List Message
  | plain reply => reply.taken
  | _ => []

end Answer

namespace Session

/-- A session on a recording transport that nobody has used, over channels of some capacity. -/
def bounded (capacity : Option Nat) : Session :=
  { recording := { transport := { capacity := capacity } } }

/-- What is done with a handle; nothing if there is no such handle. -/
def through (s : Session) (i : Nat) (use : Handle → Option Answer × Session) :
    Option Answer × Session :=
  match s.handles[i]? with
  | none => (none, s)
  | some h => use h

/-- One call, while nobody else uses the transport: its answer and the session after it. It has no
answer if it never returns or there is no such handle. -/
def attend (s : Session) : Call → Option Answer × Session
  | .open_ key =>
    let (h, r) := s.recording.open_ key
    (some (.plain (.opened key)), { recording := r, handles := s.handles ++ [h] })
  | .release i => s.through i fun h =>
    let (h', r) := s.recording.release h
    (some (.plain (.released h.key)), { recording := r, handles := s.handles.set i h' })
  | .send i m wait => s.through i fun h =>
    let (result, r) := s.recording.sendAlone h m wait
    (result.map (.sent h.key m), { s with recording := r })
  | .receive i wait => s.through i fun h =>
    let (answer, r) := s.recording.receiveAlone h wait
    (answer.map fun answer => .plain (.received h.key answer), { s with recording := r })
  | .failSendsTo key =>
    (some (.marked key), { s with recording := s.recording.failSendsTo key })
  | .enqueue key m =>
    (some (.plain (.offered key m (s.recording.transport.enqueue key m).1)),
      s.beneath fun t => (t.enqueue key m).2)
  | .drain key =>
    (some (.plain (.drained key (s.recording.transport.drain key).1)),
      s.beneath fun t => (t.drain key).2)
  | .close key => (some (.plain (.closed key)), s.beneath fun t => t.close key)

/-- The session after some calls. -/
def after (s : Session) (calls : List Call) : Session :=
  calls.foldl (fun s c => (s.attend c).2) s

end Session

/-- A call that was made: its answer, if it has returned, with the recording before and after. -/
structure Made where
  before : Recording
  answer : Option Answer
  after : Recording

/-- Some calls as they are made one after another. -/
def Session.made (s : Session) : List Call → List Made
  | [] => []
  | c :: rest =>
    ⟨s.recording, (s.attend c).1, (s.attend c).2.recording⟩ :: (s.attend c).2.made rest

/-- The messages that a channel accepted, told from its queue alone: those that now stand behind
the ones it had. -/
def grown (key : ChannelKey) (before after : Recording) : List Message :=
  (after.transport.messages key).drop (before.transport.messages key).length

/-- Messages of an answer, if it is about the channel. -/
def told (messages : Answer → List Message) (key : ChannelKey) : Option Answer → List Message
  | some answer => only answer.key (messages answer) key
  | none => []

/-- The messages whose sends through handles of a channel returned with success. -/
def sentThrough (key : ChannelKey) (past : List Made) : List Message :=
  past.flatMap fun x => told Answer.delivered key x.answer

/-- The messages that were put on a channel without a handle. -/
def enqueuedOn (key : ChannelKey) (past : List Made) : List Message :=
  past.flatMap fun x => told Answer.enqueued key x.answer

/-- The messages that receives and drains got from a channel. -/
def handedOut (key : ChannelKey) (past : List Made) : List Message :=
  past.flatMap fun x => told Answer.taken key x.answer

/-- The messages that the queue of a channel ever accepted. -/
def accepted (key : ChannelKey) (past : List Made) : List Message :=
  past.flatMap fun x => grown key x.before x.after

theorem through_none {s : Session} {i : Nat} (absent : s.handles[i]? = none)
    (use : Handle → Option Answer × Session) : s.through i use = (none, s) := by
  simp only [Session.through, absent]

theorem through_some {s : Session} {i : Nat} {h : Handle} (at_ : s.handles[i]? = some h)
    (use : Handle → Option Answer × Session) : s.through i use = use h := by
  simp only [Session.through, at_]

/-- What is true of nothing, and of what is done with the handle if there is one. -/
theorem through_cases {P : Option Answer × Session → Prop} {s : Session} {i : Nat}
    {use : Handle → Option Answer × Session} (absent : P (none, s))
    (found : ∀ h, s.handles[i]? = some h → P (use h)) : P (s.through i use) := by
  cases at_ : s.handles[i]? with
  | none =>
    rw [through_none at_]
    exact absent
  | some h =>
    rw [through_some at_]
    exact found h at_

/-- What is related if two sessions have the same handles and the same is done with them. -/
theorem through_related {P : Option Answer × Session → Option Answer × Session → Prop}
    {s s' : Session} {i : Nat} {use use' : Handle → Option Answer × Session}
    (handles : s.handles = s'.handles) (absent : P (none, s) (none, s'))
    (found : ∀ h, P (use h) (use' h)) : P (s.through i use) (s'.through i use') := by
  cases at_ : s.handles[i]? with
  | none =>
    rw [through_none at_, through_none (handles ▸ at_)]
    exact absent
  | some h =>
    rw [through_some at_, through_some (handles ▸ at_)]
    exact found h

/-! ## One call -/

/-- The failure of a send to a channel that is marked as failing. -/
def injected (key : ChannelKey) : TransportError :=
  .io ("injected failure on `" ++ key.name ++ "`")

section

variable {r : Recording} {h : Handle}

/-- A marked channel refuses before its queue is asked, so however it is and however long the send
would wait. -/
theorem sendAlone_marked (marked : h.key ∈ r.journal.failing) (m : Message) (wait : WaitPolicy) :
    r.sendAlone h m wait = (some (.error (injected h.key)), r) := by
  simp only [sendAlone, injected?, if_pos marked]
  rfl

theorem sendAlone_unmarked (unmarked : h.key ∉ r.journal.failing) (m : Message)
    (wait : WaitPolicy) :
    r.sendAlone h m wait = ((r.transport.sendAlone h.key m wait).1,
      { r with transport := (r.transport.sendAlone h.key m wait).2 }.afterSend h.key m
        (r.transport.sendAlone h.key m wait).1) := by
  simp only [sendAlone, injected?, if_neg unmarked]

theorem sentTo_record (r : Recording) (k : ChannelKey) (m : Message) (key : ChannelKey) :
    (r.record k m).sentTo key = r.sentTo key ++ only k [m] key := by
  by_cases hk : key = k
  · subst hk
    simp only [sentTo, record, SortedMap.get?_insert_self, Option.getD_some, only, if_true]
  · simp only [sentTo, record, SortedMap.get?_insert_of_ne hk, only, if_neg hk, List.append_nil]

end

/-- **What a call can be** that has this answer. -/
inductive Dealt (r : Recording) : Option Answer → Recording → Prop
  /-- It would never return. -/
  | waiting : Dealt r none r
  | injected (key : ChannelKey) (m : Message) : key ∈ r.journal.failing →
    Dealt r (some (.sent key m (.error (injected key)))) r
  | refused (key : ChannelKey) (m : Message) (e : TransportError) : key ∉ r.journal.failing →
    Handled r.transport (.offered key m (.error e)) r.transport →
    Dealt r (some (.sent key m (.error e))) r
  | sent (key : ChannelKey) (m : Message) (t : Transport) : key ∉ r.journal.failing →
    Handled r.transport (.offered key m (.ok ())) t →
    Dealt r (some (.sent key m (.ok ()))) ({ r with transport := t }.record key m)
  | marked (key : ChannelKey) : Dealt r (some (.marked key)) (r.failSendsTo key)
  /-- Any other call is one of the transport. -/
  | plain (reply : Transport.Reply) (t : Transport) (n : Nat) : Handled r.transport reply t →
    Dealt r (some (.plain reply)) { transport := t, journal := { r.journal with opened := n } }

/-- No call moves the last moment of the clock. -/
theorem Dealt.reach_eq {r r' : Recording} {answer : Option Answer} (h : Dealt r answer r') :
    r'.transport.reach = r.transport.reach := by
  cases h with
  | waiting | injected | refused | marked => rfl
  | sent _ _ _ _ handled | plain _ _ _ handled => exact handled.reach_eq

theorem dealt_sendAlone (r : Recording) (h : Handle) (m : Message) (wait : WaitPolicy) :
    Dealt r ((r.sendAlone h m wait).1.map (.sent h.key m)) (r.sendAlone h m wait).2 := by
  by_cases marked : h.key ∈ r.journal.failing
  · rw [sendAlone_marked marked]
    exact .injected h.key m marked
  · rw [sendAlone_unmarked marked]
    cases called : (r.transport.sendAlone h.key m wait).1 with
    | none =>
      rw [Transport.sendAlone_unanswered called]
      exact .waiting
    | some result =>
      have handled : Handled r.transport (.offered h.key m result)
          (r.transport.sendAlone h.key m wait).2 :=
        Transport.handled_sendAlone (Prod.ext called rfl)
      cases result with
      | ok => exact .sent h.key m _ marked handled
      | error e =>
        have same := handled.eq_of_refused
        rw [same] at handled ⊢
        exact .refused h.key m e marked handled

theorem dealt_receiveAlone (r : Recording) (h : Handle) (wait : WaitPolicy) :
    Dealt r ((r.receiveAlone h wait).1.map fun answer => .plain (.received h.key answer))
      (r.receiveAlone h wait).2 := by
  show Dealt r ((r.transport.receiveAlone h.key wait).1.map _)
    { r with transport := (r.transport.receiveAlone h.key wait).2 }
  cases called : (r.transport.receiveAlone h.key wait).1 with
  | none =>
    rw [Transport.receiveAlone_unanswered called]
    exact .waiting
  | some answer =>
    exact .plain _ _ r.journal.opened (Transport.handled_receiveAlone (Prod.ext called rfl))

/-- **A call is one of these.** -/
theorem dealt_attend (s : Session) (c : Call) :
    Dealt s.recording (s.attend c).1 (s.attend c).2.recording := by
  cases c with
  | open_ key => exact .plain _ _ _ (.opened key _)
  | release i =>
    refine through_cases (P := fun x => Dealt s.recording x.1 x.2.recording) .waiting fun h _ => ?_
    exact .plain _ _ _ (Transport.handled_release s.recording.transport h)
  | send i m wait =>
    refine through_cases (P := fun x => Dealt s.recording x.1 x.2.recording) .waiting fun h _ => ?_
    exact dealt_sendAlone s.recording h m wait
  | receive i wait =>
    refine through_cases (P := fun x => Dealt s.recording x.1 x.2.recording) .waiting fun h _ => ?_
    exact dealt_receiveAlone s.recording h wait
  | failSendsTo key => exact .marked key
  | enqueue key m =>
    exact .plain _ _ _
      (Transport.handled_sendAlone (Transport.sendAlone_immediate s.recording.transport key m))
  | drain key => exact .plain _ _ _ (.drained key)
  | close key => exact .plain _ _ _ (.closed key)

/-! ## What one call does -/

theorem told_eq_nil {f : Answer → List Message} {answer : Answer} (none : f answer = [])
    (key : ChannelKey) : told f key (some answer) = [] := by
  simp only [told, none, Transport.only_nil, Transport.nowhere]

namespace Dealt

variable {r r' : Recording} {answer : Option Answer}

/-- The journal gets what was sent with success. -/
theorem sentTo_eq (h : Dealt r answer r') (key : ChannelKey) :
    r'.sentTo key = r.sentTo key ++ told Answer.delivered key answer := by
  cases h with
  | waiting => exact (List.append_nil _).symm
  | sent k m t => exact sentTo_record _ k m key
  | injected | refused | marked | plain =>
    rw [told_eq_nil rfl]
    exact (List.append_nil _).symm

/-- The queue gets what was sent with success or enqueued. -/
theorem grown_eq (h : Dealt r answer r') (key : ChannelKey) :
    grown key r r' = told Answer.delivered key answer ++ told Answer.enqueued key answer := by
  cases h with
  | waiting => exact List.drop_length
  | sent k m t _ handled =>
    rw [told_eq_nil (f := Answer.enqueued) rfl, List.append_nil]
    exact handled.drop_length key
  | plain reply t n handled =>
    rw [told_eq_nil (f := Answer.delivered) rfl]
    exact handled.drop_length key
  | injected | refused | marked =>
    rw [told_eq_nil rfl, told_eq_nil rfl]
    exact List.drop_length

/-- What it had, and what it gets, the queue hands out in this order or keeps. -/
theorem conserves (h : Dealt r answer r') (key : ChannelKey) :
    r.transport.messages key ++ grown key r r' =
      told Answer.taken key answer ++ r'.transport.messages key := by
  rw [h.grown_eq]
  cases h with
  | waiting => exact List.append_nil _
  | sent k m t _ handled =>
    rw [told_eq_nil (f := Answer.enqueued) rfl, told_eq_nil (f := Answer.taken) rfl,
      List.append_nil]
    have balance := handled.conserves key
    rwa [show Transport.Reply.taken (.offered k m (.ok ())) = [] from rfl,
      Transport.only_nil] at balance
  | plain reply t n handled =>
    rw [told_eq_nil (f := Answer.delivered) rfl]
    exact handled.conserves key
  | injected | refused | marked =>
    rw [told_eq_nil rfl, told_eq_nil rfl, told_eq_nil rfl]
    exact List.append_nil _

/-- Only a mark marks. -/
theorem marks_iff (h : Dealt r answer r') (key : ChannelKey) :
    key ∈ r'.journal.failing ↔ key ∈ r.journal.failing ∨ answer = some (.marked key) := by
  cases h with
  | marked k =>
    simp only [failSendsTo, SortedSet.mem_insert, Option.some.injEq, Answer.marked.injEq]
    exact or_comm.trans (or_congr_right eq_comm)
  | waiting | injected | refused | sent | plain =>
    exact (or_iff_left nofun).symm

end Dealt

/-! ## What any calls do -/

variable {s : Session} {calls : List Call}

theorem dealt_made {x : Made} (made : x ∈ s.made calls) : Dealt x.before x.answer x.after := by
  induction calls generalizing s with
  | nil => cases made
  | cons c rest ih =>
    rcases List.mem_cons.mp made with rfl | later
    · exact dealt_attend s c
    · exact ih later

/-- **The journal of a channel has the messages whose sends returned with success.** -/
theorem sentTo_after (s : Session) (calls : List Call) (key : ChannelKey) :
    (s.after calls).recording.sentTo key =
      s.recording.sentTo key ++ sentThrough key (s.made calls) := by
  induction calls generalizing s with
  | nil => exact (List.append_nil _).symm
  | cons c rest ih =>
    show ((s.attend c).2.after rest).recording.sentTo key = _
    rw [ih, (dealt_attend s c).sentTo_eq key, List.append_assoc]
    rfl

/-- **A channel accepts what was sent with success and what was enqueued**, each in order. -/
theorem interleaved_made (s : Session) (calls : List Call) (key : ChannelKey) :
    Interleaved (sentThrough key (s.made calls)) (enqueuedOn key (s.made calls))
      (accepted key (s.made calls)) := by
  refine Interleaved.flatMap fun x made => ?_
  rw [(dealt_made made).grown_eq key]
  exact .apart _ _

/-- **What a channel accepts comes out of it first in, first out.** -/
theorem conserved_made (s : Session) (calls : List Call) (key : ChannelKey) :
    s.recording.transport.messages key ++ accepted key (s.made calls) =
      handedOut key (s.made calls) ++ (s.after calls).recording.transport.messages key := by
  induction calls generalizing s with
  | nil => exact List.append_nil _
  | cons c rest ih =>
    have own := (dealt_attend s c).conserves key
    have later := ih (s.attend c).2
    show _ ++ (grown key s.recording (s.attend c).2.recording ++ accepted key _) =
      (told Answer.taken key (s.attend c).1 ++ handedOut key _) ++ _
    rw [← List.append_assoc, own, List.append_assoc, later, List.append_assoc]
    rfl

theorem answer_marked_iff (s : Session) (c : Call) (key : ChannelKey) :
    (s.attend c).1 = some (.marked key) ↔ c = .failSendsTo key := by
  cases c with
  | failSendsTo k =>
    simp only [Session.attend, Option.some.injEq, Answer.marked.injEq, Call.failSendsTo.injEq]
  | release i =>
    refine iff_of_false (through_cases (P := fun x => x.1 ≠ some (.marked key)) nofun ?_) nofun
    exact fun h _ => nofun
  | send i m wait | receive i wait =>
    refine iff_of_false (through_cases (P := fun x => x.1 ≠ some (.marked key)) nofun ?_) nofun
    intro h _ marked
    obtain ⟨_, _, no⟩ := Option.map_eq_some_iff.mp marked
    cases no
  | open_ | enqueue | drain | close => exact iff_of_false nofun nofun

/-- A channel is marked if it was, or if one of the calls has marked it. -/
theorem marked_after (s : Session) (calls : List Call) (key : ChannelKey) :
    key ∈ (s.after calls).recording.journal.failing ↔
      key ∈ s.recording.journal.failing ∨ .failSendsTo key ∈ calls := by
  induction calls generalizing s with
  | nil => exact (or_iff_left List.not_mem_nil).symm
  | cons c rest ih =>
    show key ∈ ((s.attend c).2.after rest).recording.journal.failing ↔ _
    rw [ih, (dealt_attend s c).marks_iff key, answer_marked_iff, or_assoc, List.mem_cons,
      @eq_comm _ c]

/-- The channels of the handles that a call opens. -/
def Call.opened : Call → List ChannelKey
  | open_ key => [key]
  | _ => []

theorem handles_attend (s : Session) (c : Call) :
    (s.attend c).2.handles.map Handle.key = s.handles.map Handle.key ++ c.opened := by
  cases c with
  | open_ key => exact List.map_append
  | release i =>
    rw [show (Call.release i).opened = [] from rfl, List.append_nil]
    refine through_cases (P := fun x => x.2.handles.map Handle.key = _) rfl fun h at_ => ?_
    obtain ⟨within, rfl⟩ := List.getElem?_eq_some_iff.mp at_
    obtain ⟨n, released⟩ := s.recording.transport.release_eq s.handles[i]
    simp only [release, released, List.map_set]
    rw [← List.getElem_map Handle.key, List.set_getElem_self]
    rwa [List.length_map]
  | send i m wait | receive i wait =>
    rw [show Call.opened _ = [] from rfl, List.append_nil]
    exact through_cases (P := fun x => x.2.handles.map Handle.key = _) rfl fun h _ => rfl
  | failSendsTo | enqueue | drain | close => exact (List.append_nil _).symm

/-- The handles are the ones that were opened, in order. -/
theorem handles_after (s : Session) (calls : List Call) :
    (s.after calls).handles.map Handle.key =
      s.handles.map Handle.key ++ calls.flatMap Call.opened := by
  induction calls generalizing s with
  | nil => exact (List.append_nil _).symm
  | cons c rest ih =>
    show ((s.attend c).2.after rest).handles.map Handle.key = _
    rw [ih, handles_attend, List.append_assoc, List.flatMap_cons]

/-! ## Sends -/

/-- A call that does not return, or a send that fails. -/
def Fruitless : Option Answer → Prop
  | none => True
  | some (.sent _ _ (.error _)) => True
  | _ => False

theorem Dealt.eq_of_fruitless {r r' : Recording} {answer : Option Answer}
    (h : Dealt r answer r') (fruitless : Fruitless answer) : r' = r := by
  cases h with
  | waiting | injected | refused => rfl
  | sent | marked | plain => exact fruitless.elim

/-- **A send that fails leaves nothing behind**, for whatever reason it does. -/
theorem attend_fruitless {s : Session} {c : Call} (fruitless : Fruitless (s.attend c).1) :
    (s.attend c).2 = s := by
  have same := (dealt_attend s c).eq_of_fruitless fruitless
  have handles : (s.attend c).2.handles = s.handles := by
    cases c with
    | open_ key => exact fruitless.elim
    | release i =>
      revert fruitless
      exact through_cases (P := fun x => Fruitless x.1 → x.2.handles = s.handles)
        (fun _ => rfl) fun h _ no => no.elim
    | send i m wait | receive i wait =>
      exact through_cases (P := fun x => x.2.handles = s.handles) rfl fun h _ => rfl
    | failSendsTo | enqueue | drain | close => rfl
  calc (s.attend c).2 = ⟨(s.attend c).2.recording, (s.attend c).2.handles⟩ := rfl
    _ = s := by rw [same, handles]

section

variable {s : Session} {i : Nat} {h : Handle}

/-- **A send to a marked channel fails at once**, whether the channel is open, closed or full. -/
theorem attend_marked (at_ : s.handles[i]? = some h)
    (marked : h.key ∈ s.recording.journal.failing) (m : Message) (wait : WaitPolicy) :
    (s.attend (.send i m wait)).1 = some (.sent h.key m (.error (injected h.key))) := by
  simp only [Session.attend, through_some at_, sendAlone_marked marked, Option.map_some]

/-- **Any other send answers as the transport does.** -/
theorem attend_unmarked (at_ : s.handles[i]? = some h)
    (unmarked : h.key ∉ s.recording.journal.failing) (m : Message) (wait : WaitPolicy) :
    (s.attend (.send i m wait)).1 =
      (s.recording.transport.sendAlone h.key m wait).1.map (.sent h.key m) := by
  simp only [Session.attend, through_some at_, sendAlone_unmarked unmarked]

end

/-! ## Other channels -/

/-- Two recordings that are the same to one who looks at one channel. -/
structure Alike (key : ChannelKey) (r r' : Recording) : Prop where
  transport : Transport.Agree (· = key) r.transport r'.transport
  sentTo : r.sentTo key = r'.sentTo key
  marked : key ∈ r.journal.failing ↔ key ∈ r'.journal.failing

namespace Alike

variable {key : ChannelKey} {r r' r₁ r₁' : Recording}

theorem refl (key : ChannelKey) (r : Recording) : Alike key r r := ⟨.refl _ _, rfl, Iff.rfl⟩

theorem symm (h : Alike key r r') : Alike key r' r :=
  ⟨h.transport.symm, h.sentTo.symm, h.marked.symm⟩

theorem trans (h : Alike key r r₁) (h₁ : Alike key r₁ r') : Alike key r r' :=
  ⟨h.transport.trans h₁.transport, h.sentTo.trans h₁.sentTo, h.marked.trans h₁.marked⟩

/-- Whatever changes the transports alone, and them alike. -/
theorem of_transport (h : Alike key r r') {t t' : Transport}
    (agree : Transport.Agree (· = key) t t') :
    Alike key { r with transport := t } { r' with transport := t' } :=
  ⟨agree, h.sentTo, h.marked⟩

theorem record (h : Alike key r r') (k : ChannelKey) (m : Message) :
    Alike key (r.record k m) (r'.record k m) :=
  ⟨h.transport, by rw [sentTo_record, sentTo_record, h.sentTo], h.marked⟩

end Alike

/-- A call about another channel makes no difference. -/
theorem Dealt.alike {key : ChannelKey} {r r' : Recording} {answer : Option Answer}
    (h : Dealt r answer r') (apart : ∀ a ∈ answer, a.key ≠ key) : Alike key r r' := by
  have elsewhere {reply : Transport.Reply} {t : Transport} (handled : Handled r.transport reply t)
      (other : reply.key ≠ key) : Transport.Agree (· = key) r.transport t := by
    refine ⟨handled.capacity_eq.symm, handled.reach_eq.symm, ?_⟩
    rintro k rfl
    exact (handled.queue_of_ne (Ne.symm other)).symm
  cases h with
  | waiting | injected | refused => exact .refl key r
  | sent k m t _ handled =>
    have other : k ≠ key := apart _ rfl
    refine ⟨elsewhere handled other, ?_, Iff.rfl⟩
    rw [sentTo_record, only, if_neg (Ne.symm other), List.append_nil]
    rfl
  | marked k =>
    have other : k ≠ key := apart _ rfl
    exact ⟨.refl _ _, rfl, (SortedSet.mem_insert.trans (or_iff_right (Ne.symm other))).symm⟩
  | plain reply t n handled => exact ⟨elsewhere handled (apart _ rfl), rfl, Iff.rfl⟩

namespace Alike

variable {key : ChannelKey} {r r' : Recording}

/-- Calls about other channels, one in each recording, make no difference. -/
theorem elsewhere {r₁ r₁' : Recording} {answer answer' : Option Answer} (alike : Alike key r r')
    (h : Dealt r answer r₁) (h' : Dealt r' answer' r₁') (apart : ∀ a ∈ answer, a.key ≠ key)
    (apart' : ∀ a ∈ answer', a.key ≠ key) : Alike key r₁ r₁' :=
  (h.alike apart).symm.trans (alike.trans (h'.alike apart'))

theorem sendAlone (alike : Alike key r r') (h : Handle) (m : Message) (wait : WaitPolicy) :
    (h.key = key → (r.sendAlone h m wait).1 = (r'.sendAlone h m wait).1) ∧
      Alike key (r.sendAlone h m wait).2 (r'.sendAlone h m wait).2 := by
  by_cases own : h.key = key
  · subst own
    by_cases marked : h.key ∈ r.journal.failing
    · rw [sendAlone_marked marked, sendAlone_marked (alike.marked.mp marked)]
      exact ⟨fun _ => rfl, alike⟩
    · obtain ⟨same, agree⟩ := alike.transport.sendAlone rfl m wait
      rw [sendAlone_unmarked marked, sendAlone_unmarked (mt alike.marked.mpr marked), same]
      refine ⟨fun _ => rfl, ?_⟩
      rcases (r'.transport.sendAlone h.key m wait).1 with _ | e | _
      · exact alike.of_transport agree
      · exact alike.of_transport agree
      · exact (alike.of_transport agree).record h.key m
  · have apart (r : Recording) : ∀ a ∈ (r.sendAlone h m wait).1.map (Answer.sent h.key m),
        a.key ≠ key := by
      intro a answered
      obtain ⟨_, -, rfl⟩ := Option.map_eq_some_iff.mp answered
      exact own
    exact ⟨fun same => absurd same own, alike.elsewhere (dealt_sendAlone r h m wait)
      (dealt_sendAlone r' h m wait) (apart r) (apart r')⟩

theorem receiveAlone (alike : Alike key r r') (h : Handle) (wait : WaitPolicy) :
    Alike key (r.receiveAlone h wait).2 (r'.receiveAlone h wait).2 := by
  by_cases own : h.key = key
  · exact alike.of_transport (alike.transport.receiveAlone own wait).2
  · have apart (r : Recording) : ∀ a ∈ (r.receiveAlone h wait).1.map fun answer =>
        Answer.plain (.received h.key answer), a.key ≠ key := by
      intro a answered
      obtain ⟨_, -, rfl⟩ := Option.map_eq_some_iff.mp answered
      exact own
    exact alike.elsewhere (dealt_receiveAlone r h wait) (dealt_receiveAlone r' h wait) (apart r)
      (apart r')

/-- A call of the transport beneath that only looks at its own channel. -/
theorem beneath {s s' : Session} (alike : Alike key s.recording s'.recording) {k : ChannelKey}
    {use : Transport → Transport} (handled : ∀ t, ∃ reply, reply.key = k ∧ Handled t reply (use t))
    (own : ∀ t t', Transport.Agree (· = k) t t' → Transport.Agree (· = k) (use t) (use t')) :
    Alike key (s.beneath use).recording (s'.beneath use).recording := by
  by_cases hk : k = key
  · subst hk
    exact alike.of_transport (own _ _ alike.transport)
  · obtain ⟨reply, about, h⟩ := handled s.recording.transport
    obtain ⟨reply', about', h'⟩ := handled s'.recording.transport
    refine alike.elsewhere (.plain reply _ _ h) (.plain reply' _ _ h') ?_ ?_
    · rintro _ ⟨⟩ same
      exact hk (about.symm.trans same)
    · rintro _ ⟨⟩ same
      exact hk (about'.symm.trans same)

end Alike

/-- Two sessions with the same handles that are the same to one who looks at one channel. -/
structure Session.Alike (key : ChannelKey) (s s' : Session) : Prop where
  handles : s.handles = s'.handles
  recording : Recording.Alike key s.recording s'.recording

/-- **One call keeps two sessions alike.** -/
theorem Session.Alike.attend {key : ChannelKey} {s s' : Session} (alike : s.Alike key s')
    (c : Call) : (s.attend c).2.Alike key (s'.attend c).2 := by
  obtain ⟨handles, same⟩ := alike
  cases c with
  | open_ k =>
    exact ⟨congrArg (· ++ [_]) handles, same.transport.withHandles _ _, same.sentTo, same.marked⟩
  | release i =>
    refine through_related (P := fun x x' => x.2.Alike key x'.2) handles ⟨handles, same⟩ fun h => ?_
    obtain ⟨n, released⟩ := s.recording.transport.release_eq h
    obtain ⟨n', released'⟩ := s'.recording.transport.release_eq h
    simp only [release, released, released', handles]
    exact ⟨rfl, same.transport.withHandles n n', same.sentTo, same.marked⟩
  | send i m wait =>
    refine through_related (P := fun x x' => x.2.Alike key x'.2) handles ⟨handles, same⟩ fun h => ?_
    exact ⟨handles, (same.sendAlone h m wait).2⟩
  | receive i wait =>
    refine through_related (P := fun x x' => x.2.Alike key x'.2) handles ⟨handles, same⟩ fun h => ?_
    exact ⟨handles, same.receiveAlone h wait⟩
  | failSendsTo k =>
    refine ⟨handles, same.transport, same.sentTo, ?_⟩
    simp only [Session.attend, failSendsTo, SortedSet.mem_insert, same.marked]
  | enqueue k m =>
    refine ⟨handles, same.beneath (k := k) (fun t => ?_) fun t t' agree => ?_⟩
    · exact ⟨_, rfl, Transport.handled_sendAlone (Transport.sendAlone_immediate t k m)⟩
    · have sent := (agree.sendAlone rfl m .immediate).2
      rwa [Transport.sendAlone_immediate, Transport.sendAlone_immediate] at sent
  | drain k =>
    have handled (t : Transport) : ∃ reply, reply.key = k ∧ Handled t reply (t.drain k).2 :=
      ⟨_, rfl, .drained k⟩
    refine ⟨handles, same.beneath handled fun t t' agree => ?_⟩
    unfold Transport.drain
    rw [agree.queue k rfl]
    exact agree.withQueue k _
  | close k =>
    have handled (t : Transport) : ∃ reply, reply.key = k ∧ Handled t reply (t.close k) :=
      ⟨_, rfl, .closed k⟩
    refine ⟨handles, same.beneath handled fun t t' agree => ?_⟩
    unfold Transport.close
    rw [agree.queue k rfl]
    exact agree.withQueue k _

/-- A send to the channel that is looked at answers the same in both. -/
theorem Session.Alike.answer_eq {s s' : Session} {i : Nat} {h : Handle}
    (alike : s.Alike h.key s') (at_ : s.handles[i]? = some h) (m : Message) (wait : WaitPolicy) :
    (s.attend (.send i m wait)).1 = (s'.attend (.send i m wait)).1 := by
  have same := (alike.recording.sendAlone h m wait).1 rfl
  simp only [Session.attend, through_some at_, through_some (alike.handles ▸ at_), same]

/-- Whether a call marks a channel. -/
def Call.marks (key : ChannelKey) : Call → Bool
  | failSendsTo k => k = key
  | _ => false

theorem Call.marks_iff {key : ChannelKey} {c : Call} :
    c.marks key = true ↔ c = .failSendsTo key := by
  cases c <;> simp only [Call.marks, decide_eq_true_eq, Call.failSendsTo.injEq, reduceCtorEq,
    Bool.false_eq_true]

/-- Some calls without those that mark a channel. -/
def unmarking (key : ChannelKey) (calls : List Call) : List Call :=
  calls.filter fun c => !c.marks key

/-- **A mark on one channel makes no difference to another.** -/
theorem Session.Alike.unmarking {key other : ChannelKey} (apart : other ≠ key) {s s' : Session}
    (alike : s.Alike other s') (calls : List Call) :
    (s.after calls).Alike other (s'.after (unmarking key calls)) := by
  induction calls generalizing s s' with
  | nil => exact alike
  | cons c rest ih =>
    unfold Recording.unmarking
    cases marks : c.marks key with
    | false =>
      rw [List.filter_cons_of_pos (by rw [marks]; rfl)]
      exact ih (alike.attend c)
    | true =>
      rw [List.filter_cons_of_neg (by rw [marks]; decide)]
      obtain rfl := Call.marks_iff.mp marks
      refine ih ⟨?_, ?_⟩
      · exact alike.handles
      · refine ((dealt_attend s (.failSendsTo key)).alike ?_).symm.trans alike.recording
        rintro _ ⟨⟩
        exact Ne.symm apart

end Recording

end ChannelRouting
