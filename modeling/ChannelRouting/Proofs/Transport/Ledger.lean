import ChannelRouting.Proofs.Transport.Session
import ChannelRouting.Transport.Recording
import Mathlib.Data.Finset.Card

/-!
# The books of handles

A transport counts the handles that are open. Opening adds one, and releasing takes one away unless
the handle was released before, which the handle itself remembers. `Ledger` is how the counter
stands to the handles that were opened and to the places of those that were released, however often
each was. The counter is decremented for handles that are open only, so it never falls below zero
(`Ledger.released`).

A ledger is kept by the calls of a session (`Transport.openHandles_session`), and by those of a
session on a recording transport (`Recording.openHandles_session`), whose journal has the number of
handles that were opened. Some calls of a session may not return. Those that open and release do
(`session_returns`), if what they release was opened.
-/

namespace ChannelRouting.Transport

/-- **How a counter of open handles stands** to the handles that were opened, and to the places of
those that were released. -/
structure Ledger (handles : List Handle) (released : Finset Nat) (openHandles : Nat) : Prop where
  flag : ∀ i h, handles[i]? = some h → (h.released = true ↔ i ∈ released)
  within : ∀ i ∈ released, i < handles.length
  balance : openHandles + released.card = handles.length

namespace Ledger

variable {handles handles' : List Handle} {gone : Finset Nat} {t t' : Transport}

theorem nil : Ledger [] ∅ 0 where
  flag _ _ h := nomatch h
  within _ h := nomatch h
  balance := rfl

/-- A handle is opened. -/
theorem opened (ledger : Ledger handles gone t.openHandles) (key : ChannelKey) :
    Ledger (handles ++ [(t.open_ key).1]) gone (t.open_ key).2.openHandles where
  flag i h at_ := by
    rcases Nat.lt_trichotomy i handles.length with before | rfl | beyond
    · rw [List.getElem?_append_left before] at at_
      exact ledger.flag i h at_
    · rw [List.getElem?_concat_length] at at_
      cases at_
      refine iff_of_false nofun fun already => ?_
      exact Nat.lt_irrefl _ (ledger.within _ already)
    · rw [List.getElem?_eq_none (by rw [List.length_append, List.length_singleton]; omega)] at at_
      cases at_
  within i already := by
    have := ledger.within i already
    rw [List.length_append, List.length_singleton]
    omega
  balance := by
    have balance := ledger.balance
    show t.openHandles + 1 + gone.card = _
    rw [List.length_append, List.length_singleton]
    omega

/-- There are no more places than handles. -/
theorem card_insert_le (ledger : Ledger handles gone t.openHandles) {i : Nat}
    (within : i < handles.length) : (insert i gone).card ≤ handles.length := by
  have places : insert i gone ⊆ Finset.range handles.length := by
    intro j hj
    rcases Finset.mem_insert.mp hj with rfl | already
    · exact Finset.mem_range.mpr within
    · exact Finset.mem_range.mpr (ledger.within j already)
  have fewer := Finset.card_le_card places
  rwa [Finset.card_range] at fewer

/-- **A handle is released**, for the first time or again. -/
theorem released (ledger : Ledger handles gone t.openHandles) {i : Nat} {h : Handle}
    (at_ : handles[i]? = some h) :
    Ledger (handles.set i (t.release h).1) (insert i gone) (t.release h).2.openHandles := by
  obtain ⟨within, rfl⟩ := List.getElem?_eq_some_iff.mp at_
  have flag := ledger.flag i _ at_
  unfold Transport.release
  by_cases again : handles[i].released = true
  · rw [if_pos again, List.set_getElem_self, Finset.insert_eq_of_mem (flag.mp again)]
    exact ledger
  · rw [if_neg again]
    have fresh : i ∉ gone := fun already => again (flag.mpr already)
    refine ⟨fun j h' at_' => ?_, fun j hj => ?_, ?_⟩
    · by_cases own : i = j
      · subst own
        rw [List.getElem?_set_self within] at at_'
        cases at_'
        exact iff_of_true rfl (Finset.mem_insert_self i gone)
      · rw [List.getElem?_set_ne own] at at_'
        rw [ledger.flag j h' at_', Finset.mem_insert, or_iff_right (Ne.symm own)]
    · rw [List.length_set]
      rcases Finset.mem_insert.mp hj with rfl | already
      · exact within
      · exact ledger.within j already
    · -- One more place is taken, so the counter was not at zero.
      have fewer := ledger.card_insert_le within
      have balance := ledger.balance
      rw [Finset.card_insert_of_notMem fresh] at fewer ⊢
      rw [List.length_set]
      show t.openHandles - 1 + _ = _
      omega

end Ledger

/-! ## Calls -/

/-- What a call means for the books. -/
inductive Posting where
  | opening
  | releasing (place : Nat)
  | neither
deriving DecidableEq

def Posting.place? : Posting → Option Nat
  | releasing place => some place
  | opening | neither => none

/-- The different handles that were released. -/
def releasedBy (postings : List Posting) : Finset Nat :=
  (postings.filterMap Posting.place?).toFinset

theorem releasedBy_cons (p : Posting) (rest : List Posting) :
    releasedBy (p :: rest) = releasedBy [p] ∪ releasedBy rest := by
  unfold releasedBy
  rw [← List.toFinset_append, ← List.filterMap_append]
  rfl

/-- **Handles are opened, and released after they were**, each any number of times; there are `made`
of them at first, and nothing else is done. -/
def Bookable : (made : Nat) → List Posting → Prop
  | _, [] => True
  | made, .opening :: rest => Bookable (made + 1) rest
  | made, .releasing place :: rest => place < made ∧ Bookable made rest
  | _, .neither :: _ => False

theorem bookable_cons {made : Nat} {p : Posting} {rest : List Posting} :
    Bookable made (p :: rest) ↔
      Bookable made [p] ∧ Bookable (made + [p].count .opening) rest := by
  cases p with
  | opening => exact (and_iff_right trivial).symm
  | releasing place => exact and_congr_left fun _ => (and_iff_left trivial).symm
  | neither => exact iff_of_false (fun no => no) fun no => no.1

/-- **What a call does** that means this for the books. -/
inductive Posted (handles : List Handle) (t : Transport) : Posting → List Handle → Transport → Prop
  | opening (key : ChannelKey) :
    Posted handles t .opening (handles ++ [(t.open_ key).1]) (t.open_ key).2
  | releasing (place : Nat) (h : Handle) : handles[place]? = some h →
    Posted handles t (.releasing place) (handles.set place (t.release h).1) (t.release h).2
  | neither (t' : Transport) : t'.openHandles = t.openHandles → Posted handles t .neither handles t'

namespace Ledger

variable {handles handles' : List Handle} {gone : Finset Nat} {t t' : Transport}

/-- **A call keeps the books.** -/
theorem posted {p : Posting} (ledger : Ledger handles gone t.openHandles)
    (posted : Posted handles t p handles' t') :
    Ledger handles' (gone ∪ releasedBy [p]) t'.openHandles := by
  cases posted with
  | opening key =>
    rw [show releasedBy [.opening] = ∅ from rfl, Finset.union_empty]
    exact ledger.opened key
  | releasing place h at_ =>
    rw [show releasedBy [.releasing place] = {place} from rfl, Finset.union_comm,
      ← Finset.insert_eq]
    exact ledger.released at_
  | neither _ same =>
    rw [show releasedBy [.neither] = ∅ from rfl, Finset.union_empty, same]
    exact ledger

end Ledger

theorem Posted.length_eq {handles handles' : List Handle} {t t' : Transport} {p : Posting}
    (posted : Posted handles t p handles' t') :
    handles'.length = handles.length + [p].count .opening := by
  cases posted with
  | opening key => exact List.length_append
  | releasing place h at_ => exact List.length_set
  | neither => rfl

section

variable {S C : Type} {step : S → C → Option S} {posting : C → Posting} {s s' : S} {cs : List C}

/-- **Any number of calls keep the books.** -/
theorem Ledger.calls (handles : S → List Handle) (transport : S → Transport) {gone : Finset Nat}
    (posts : ∀ s c s', step s c = some s' →
      Posted (handles s) (transport s) (posting c) (handles s') (transport s'))
    (ran : cs.foldlM step s = some s')
    (ledger : Ledger (handles s) gone (transport s).openHandles) :
    Ledger (handles s') (gone ∪ releasedBy (cs.map posting)) (transport s').openHandles := by
  induction cs generalizing s gone with
  | nil =>
    cases ran
    rw [show releasedBy ([].map posting) = ∅ from rfl, Finset.union_empty]
    exact ledger
  | cons c rest ih =>
    rw [List.foldlM_cons] at ran
    obtain ⟨s₁, stepped, ran⟩ := Option.bind_eq_some_iff.mp ran
    rw [List.map_cons, releasedBy_cons, ← Finset.union_assoc]
    exact ih ran (ledger.posted (posts s c s₁ stepped))

/-- What counts the openings of a call counts those of any number of calls. -/
theorem counted_calls (counter : S → Nat)
    (counts : ∀ s c s', step s c = some s' →
      counter s' = counter s + [posting c].count .opening)
    (ran : cs.foldlM step s = some s') :
    counter s' = counter s + (cs.map posting).count .opening := by
  induction cs generalizing s with
  | nil =>
    cases ran
    rfl
  | cons c rest ih =>
    rw [List.foldlM_cons] at ran
    obtain ⟨s₁, stepped, ran⟩ := Option.bind_eq_some_iff.mp ran
    rw [ih ran, counts s c s₁ stepped, List.map_cons, Nat.add_assoc, ← List.count_append]
    rfl

/-- **Any number of bookable calls return** if every single one does. -/
theorem returns_of_bookable (handles : S → List Handle)
    (counts : ∀ s c s', step s c = some s' →
      (handles s').length = (handles s).length + [posting c].count .opening)
    (returns : ∀ s c, Bookable (handles s).length [posting c] → ∃ s', step s c = some s')
    (bookable : Bookable (handles s).length (cs.map posting)) :
    ∃ s', cs.foldlM step s = some s' := by
  induction cs generalizing s with
  | nil => exact ⟨s, rfl⟩
  | cons c rest ih =>
    obtain ⟨now, later⟩ := bookable_cons.mp bookable
    obtain ⟨s₁, stepped⟩ := returns s c now
    rw [← counts s c s₁ stepped] at later
    obtain ⟨s', ran⟩ := ih later
    refine ⟨s', ?_⟩
    rw [List.foldlM_cons, stepped]
    exact ran

/-- **Of the handles that some calls open those are open that they do not release**, if there were
none before. -/
theorem openHandles_calls (handles : S → List Handle) (transport : S → Transport)
    (posts : ∀ s c s', step s c = some s' →
      Posted (handles s) (transport s) (posting c) (handles s') (transport s'))
    (ran : cs.foldlM step s = some s') (fresh : handles s = [] ∧ (transport s).openHandles = 0) :
    (transport s').openHandles + (releasedBy (cs.map posting)).card =
      (cs.map posting).count .opening := by
  have start : Ledger (handles s) ∅ (transport s).openHandles := by
    rw [fresh.1, fresh.2]
    exact .nil
  have ledger := start.calls handles transport posts ran
  have all := counted_calls (fun s => (handles s).length)
    (fun s c s' h => (posts s c s' h).length_eq) ran
  rw [Finset.empty_union] at ledger
  rw [ledger.balance, all, fresh.1]
  exact Nat.zero_add _

end

/-! ## Sessions -/

def Call.posting : Call → Posting
  | open_ _ => .opening
  | release i => .releasing i
  | enqueue .. | send .. | receive .. | drain _ | close _ | count _ => .neither

/-- A call of a session. -/
theorem posted_perform {s s' : Session} {c : Call} {r : Reply} (h : s.perform c = some (r, s')) :
    Posted s.handles s.transport c.posting s'.handles s'.transport := by
  cases c with
  | enqueue key m =>
    cases h
    exact .neither _ (s.transport.openHandles_enqueue key m)
  | send i m wait =>
    obtain ⟨handle, -, h⟩ := Option.bind_eq_some_iff.mp h
    obtain ⟨result, -, h⟩ := Option.map_eq_some_iff.mp h
    cases h
    exact .neither _ (s.transport.openHandles_sendAlone handle.key m wait)
  | receive i wait =>
    obtain ⟨handle, -, h⟩ := Option.bind_eq_some_iff.mp h
    obtain ⟨answer, -, h⟩ := Option.map_eq_some_iff.mp h
    cases h
    exact .neither _ (s.transport.openHandles_receiveAlone handle.key wait)
  | drain key | close key | count key =>
    cases h
    exact .neither _ rfl
  | open_ key =>
    cases h
    exact .opening key
  | release i =>
    obtain ⟨handle, at_, h⟩ := Option.map_eq_some_iff.mp h
    cases h
    exact .releasing i handle at_

theorem posted_proceed {past next : List Made × Session} {c : Call}
    (h : Session.proceed past c = some next) :
    Posted past.2.handles past.2.transport c.posting next.2.handles next.2.transport := by
  obtain ⟨⟨r, s⟩, performed, rfl⟩ := Option.map_eq_some_iff.mp h
  exact posted_perform performed

/-- **Of the handles of a session those are open that were opened and not released.** -/
theorem openHandles_session {capacity : Option Nat} {calls : List Call} {made : List Made}
    {s : Session} (ran : (Session.fresh capacity).run calls = some (made, s)) :
    s.transport.openHandles + (releasedBy (calls.map Call.posting)).card =
      (calls.map Call.posting).count .opening :=
  openHandles_calls (fun past => past.2.handles) (fun past => past.2.transport)
    (fun _ _ _ h => posted_proceed h) ran ⟨rfl, rfl⟩

example (key : ChannelKey) :
    ((Session.fresh none).run [.open_ key, .open_ key, .release 0, .release 0]).map
      (fun ran => ran.2.transport.openHandles) = some 1 := rfl

/-- A bookable call returns. -/
theorem perform_of_bookable (s : Session) {c : Call}
    (bookable : Bookable s.handles.length [c.posting]) : ∃ r s', s.perform c = some (r, s') := by
  cases c with
  | open_ key => exact ⟨_, _, rfl⟩
  | release i =>
    have at_ := List.getElem?_eq_getElem bookable.1
    exact ⟨_, _, Option.map_eq_some_iff.mpr ⟨_, at_, rfl⟩⟩
  | enqueue | send | receive | drain | close | count => exact bookable.elim

/-- Opening and releasing always returns. -/
theorem session_returns (capacity : Option Nat) {calls : List Call}
    (bookable : Bookable 0 (calls.map Call.posting)) :
    ∃ made s, (Session.fresh capacity).run calls = some (made, s) := by
  have returns (past : List Made × Session) (c : Call)
      (bookable : Bookable past.2.handles.length [c.posting]) :
      ∃ next, Session.proceed past c = some next := by
    obtain ⟨r, s, performed⟩ := perform_of_bookable past.2 bookable
    exact ⟨_, Option.map_eq_some_iff.mpr ⟨(r, s), performed, rfl⟩⟩
  have counts (past : List Made × Session) (c : Call) (next : List Made × Session)
      (h : Session.proceed past c = some next) :
      next.2.handles.length = past.2.handles.length + [c.posting].count .opening :=
    (posted_proceed h).length_eq
  obtain ⟨⟨made, s⟩, ran⟩ :=
    returns_of_bookable (s := ([], Session.fresh capacity)) _ counts returns bookable
  exact ⟨made, s, ran⟩

end ChannelRouting.Transport

/-! ## Sessions on a recording transport -/

namespace ChannelRouting.Recording

open Transport (Posting Posted Bookable releasedBy)

/-- A call of a recording transport, or of the transport under it. A handle is known by its place
among those that were opened. -/
inductive Call where
  | open_ (key : ChannelKey)
  | release (handle : Nat)
  | send (handle : Nat) (m : Message) (wait : WaitPolicy)
  | receive (handle : Nat) (wait : WaitPolicy)
  | failSendsTo (key : ChannelKey)
  | enqueue (key : ChannelKey) (m : Message)
  | drain (key : ChannelKey)
  | close (key : ChannelKey)

/-- A recording transport with the handles that were opened on it. -/
structure Session where
  recording : Recording
  handles : List Handle := []

namespace Session

/-- A session on a recording transport that nobody has used. -/
def fresh : Session := { recording := {} }

/-- The session after a call on the transport under the recording one. -/
def beneath (s : Session) (use : Transport → Transport) : Session :=
  { s with recording := { s.recording with transport := use s.recording.transport } }

/-- One call, while nobody else uses the transport; `none` if it never returns or there is no such
handle. -/
def perform (s : Session) : Call → Option Session
  | .open_ key =>
    let (h, r) := s.recording.open_ key
    some { recording := r, handles := s.handles ++ [h] }
  | .release i =>
    s.handles[i]?.map fun h =>
      let (h', r) := s.recording.release h
      { recording := r, handles := s.handles.set i h' }
  | .send i m wait =>
    s.handles[i]?.bind fun h =>
      let (result, r) := s.recording.sendAlone h m wait
      result.map fun _ => { s with recording := r }
  | .receive i wait =>
    s.handles[i]?.bind fun h =>
      let (answer, r) := s.recording.receiveAlone h wait
      answer.map fun _ => { s with recording := r }
  | .failSendsTo key => some { s with recording := s.recording.failSendsTo key }
  | .enqueue key m => some (s.beneath fun t => (t.enqueue key m).2)
  | .drain key => some (s.beneath fun t => (t.drain key).2)
  | .close key => some (s.beneath fun t => t.close key)

/-- Calls in order; `none` if one of them never returns. -/
def run (s : Session) (calls : List Call) : Option Session := calls.foldlM perform s

end Session

def Call.posting : Call → Posting
  | open_ _ => .opening
  | release i => .releasing i
  | send .. | receive .. | failSendsTo _ | enqueue .. | drain _ | close _ => .neither

/-- Sending leaves the counter of handles alone, and the number of those that were opened. -/
theorem sendAlone_handles (r : Recording) (h : Handle) (m : Message) (wait : WaitPolicy) :
    (r.sendAlone h m wait).2.transport.openHandles = r.transport.openHandles ∧
      (r.sendAlone h m wait).2.journal.opened = r.journal.opened := by
  have sent := r.transport.openHandles_sendAlone h.key m wait
  unfold sendAlone
  cases r.injected? h.key with
  | some e => exact ⟨rfl, rfl⟩
  | none =>
    rcases called : r.transport.sendAlone h.key m wait with ⟨_ | e | _, t⟩ <;>
      rw [called] at sent <;> exact ⟨sent, rfl⟩

/-- So does an attempt. -/
theorem trySend_handles (r : Recording) (key : ChannelKey) (m : Message) :
    (r.trySend key m).2.transport.openHandles = r.transport.openHandles ∧
      (r.trySend key m).2.journal.opened = r.journal.opened := by
  have sent := r.transport.openHandles_trySend key m
  unfold trySend
  rcases called : r.transport.trySend key m with ⟨_ | e | _, t⟩ <;> rw [called] at sent <;>
    exact ⟨sent, rfl⟩

/-- A call of a session on a recording transport, whose journal counts the handles. -/
theorem posted_perform {s s' : Session} {c : Call} (h : s.perform c = some s') :
    Posted s.handles s.recording.transport c.posting s'.handles s'.recording.transport ∧
      s'.recording.journal.opened = s.recording.journal.opened + [c.posting].count .opening := by
  cases c with
  | open_ key =>
    cases h
    exact ⟨.opening key, rfl⟩
  | release i =>
    obtain ⟨handle, at_, h⟩ := Option.map_eq_some_iff.mp h
    cases h
    exact ⟨.releasing i handle at_, rfl⟩
  | send i m wait =>
    obtain ⟨handle, -, h⟩ := Option.bind_eq_some_iff.mp h
    obtain ⟨result, -, h⟩ := Option.map_eq_some_iff.mp h
    cases h
    obtain ⟨live, made⟩ := s.recording.sendAlone_handles handle m wait
    exact ⟨.neither _ live, made⟩
  | receive i wait =>
    obtain ⟨handle, -, h⟩ := Option.bind_eq_some_iff.mp h
    obtain ⟨answer, -, h⟩ := Option.map_eq_some_iff.mp h
    cases h
    exact ⟨.neither _ (s.recording.transport.openHandles_receiveAlone handle.key wait), rfl⟩
  | enqueue key m =>
    cases h
    exact ⟨.neither _ (s.recording.transport.openHandles_enqueue key m), rfl⟩
  | failSendsTo key | drain key | close key =>
    cases h
    exact ⟨.neither _ rfl, rfl⟩

/-- **Of the handles of a session on a recording transport those are open that were opened and not
released**, and the journal has the number of those that were opened. -/
theorem openHandles_session {calls : List Call} {s : Session}
    (ran : Session.fresh.run calls = some s) :
    s.recording.transport.openHandles + (releasedBy (calls.map Call.posting)).card =
        (calls.map Call.posting).count .opening ∧
      s.recording.journal.opened = (calls.map Call.posting).count .opening := by
  constructor
  · exact Transport.openHandles_calls Session.handles (fun s => s.recording.transport)
      (fun s c s' h => (posted_perform h).1) ran ⟨rfl, rfl⟩
  · refine (Transport.counted_calls (fun s => s.recording.journal.opened)
      (fun s c s' h => (posted_perform h).2) ran).trans ?_
    exact Nat.zero_add _

/-- A bookable call returns. -/
theorem perform_of_bookable (s : Session) {c : Call}
    (bookable : Bookable s.handles.length [c.posting]) : ∃ s', s.perform c = some s' := by
  cases c with
  | open_ key => exact ⟨_, rfl⟩
  | release i =>
    have at_ := List.getElem?_eq_getElem bookable.1
    exact ⟨_, Option.map_eq_some_iff.mpr ⟨_, at_, rfl⟩⟩
  | send | receive | failSendsTo | enqueue | drain | close => exact bookable.elim

/-- Opening and releasing always returns. -/
theorem session_returns {calls : List Call} (bookable : Bookable 0 (calls.map Call.posting)) :
    ∃ s, Session.fresh.run calls = some s :=
  Transport.returns_of_bookable Session.handles (fun _ _ _ h => (posted_perform h).1.length_eq)
    (fun s _ bookable => perform_of_bookable s bookable) bookable

end ChannelRouting.Recording
