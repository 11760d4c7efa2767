import ChannelRouting.Proofs.Update.Serial
import Mathlib.Data.List.Dedup
import Mathlib.Data.List.Perm.Subperm

/-!
# Calls that give up

A mutation gives up when every one of its swaps was refused. That takes others that get
ahead: while nobody removes the entry of a key, each attempt that was refused has within
it, between its load and its swap, a swap of another call that succeeded. So a call that
gave up after some number of attempts was overtaken that many times, by as many different
calls, for a call succeeds only once (`Overtaken`). Of a number of calls that are allowed
as many attempts none gives up, whatever the order of their steps.

The invariant (`Tallied`) keeps with every call in flight the attempts that it has lost,
and with a call that is about to swap the point of the history at which it loaded. A swap
is refused if the version has gone up since that point, and versions count the swaps.
-/

namespace ChannelRouting.Overlap

/-- The call that a deed is a step of. -/
def Deed.call? : Deed → Option Nat
  | .loaded id _ => some id.number
  | .swapped id _ _ _ _ => some id.number
  | _ => none

/-- The steps of a call, in order. -/
def stepsOf (n : Nat) (deeds : List Deed) : List Deed := deeds.filter fun d => d.call? = some n

/-- An attempt that was refused: what it read, and a swap that succeeded before its own. -/
structure Lost where
  read : Versioned
  rival : Landing
  deed : Deed
  landed : landing? deed = some rival

namespace Lost

/-- The load of the attempt, and its swap. -/
def steps (id : CallId) (m : Mutation) (a : Lost) : List Deed :=
  [.loaded id (some a.read), .swapped id m a.read.version (m.apply a.read.entry) false]

/-- The same two steps with the swap of the rival between them. -/
def window (id : CallId) (m : Mutation) (a : Lost) : List Deed :=
  [.loaded id (some a.read), a.deed, .swapped id m a.read.version (m.apply a.read.entry) false]

end Lost

/-- **The attempts that a call has lost**, by what was done to the key: they are all the steps it
has taken, and within each of them another call succeeded. -/
structure Losses (id : CallId) (m : Mutation) (deeds : List Deed) (lost : List Lost) : Prop where
  steps : stepsOf id.number deeds = lost.flatMap (Lost.steps id m)
  windows : (lost.flatMap (Lost.window id m)).Sublist deeds
  rivals : ∀ a ∈ lost, a.rival.call ≠ id.number

/-- **What a call that gave up has behind it.** -/
structure Overtaken (id : CallId) (m : Mutation) (deeds : List Deed) (attempts : Nat)
    (lost : List Lost) : Prop extends Losses id m deeds lost where
  length : lost.length = attempts
  /-- Every attempt was lost to another call. -/
  distinct : (lost.map fun a => a.rival.call).Nodup

theorem stepsOf_append (n : Nat) (d₁ d₂ : List Deed) :
    stepsOf n (d₁ ++ d₂) = stepsOf n d₁ ++ stepsOf n d₂ := List.filter_append ..

theorem stepsOf_concat_own {n : Nat} {d : Deed} (deeds : List Deed) (h : d.call? = some n) :
    stepsOf n (deeds ++ [d]) = stepsOf n deeds ++ [d] := by
  rw [stepsOf_append]
  exact congrArg _ (List.filter_cons_of_pos (decide_eq_true h))

theorem stepsOf_concat_other {n : Nat} {d : Deed} (deeds : List Deed) (h : d.call? ≠ some n) :
    stepsOf n (deeds ++ [d]) = stepsOf n deeds := by
  rw [stepsOf_append]
  have unseen : stepsOf n [d] = [] := List.filter_cons_of_neg (by simpa using h)
  rw [unseen, List.append_nil]

/-- A swap that succeeded is a step of its call. -/
theorem call?_of_landing {d : Deed} {l : Landing} (h : landing? d = some l) :
    d.call? = some l.call := by
  cases d with
  | swapped id m version written done =>
    cases done with
    | true => cases h; rfl
    | false => cases h
  | _ => cases h

namespace Losses

variable {id : CallId} {m : Mutation} {deeds : List Deed} {lost : List Lost}

theorem none (id : CallId) (m : Mutation) (h : stepsOf id.number deeds = []) :
    Losses id m deeds [] :=
  ⟨h, List.nil_sublist deeds, fun _ ha => nomatch ha⟩

theorem other (h : Losses id m deeds lost) {d : Deed} (hd : d.call? ≠ some id.number) :
    Losses id m (deeds ++ [d]) lost where
  steps := (stepsOf_concat_other deeds hd).trans h.steps
  windows := h.windows.trans (List.sublist_append_left deeds [d])
  rivals := h.rivals

/-- One more attempt is lost: after its load, of which `after` tells what followed, another call
succeeded, and then its own swap was refused. -/
theorem concat (h : Losses id m deeds lost) (read : Versioned) {after : List Deed} {d : Deed}
    {rival : Landing} (idle : stepsOf id.number after = []) (hd : d ∈ after)
    (landed : landing? d = some rival) :
    Losses id m
      (deeds ++ .loaded id (some read) :: after ++
        [.swapped id m read.version (m.apply read.entry) false])
      (lost ++ [⟨read, rival, d, landed⟩]) := by
  refine ⟨?_, ?_, ?_⟩
  · have loaded : stepsOf id.number (.loaded id (some read) :: after) =
        [.loaded id (some read)] := by
      rw [← idle]
      exact List.filter_cons_of_pos (decide_eq_true rfl)
    have swapped : (Deed.swapped id m read.version (m.apply read.entry) false).call? =
        some id.number := rfl
    rw [stepsOf_concat_own _ swapped, stepsOf_append, loaded, h.steps, List.flatMap_append,
      List.append_assoc]
    rfl
  · rw [List.flatMap_append, List.append_assoc]
    refine h.windows.append ?_
    have between : [d].Sublist after := List.singleton_sublist.mpr hd
    exact (between.append (List.Sublist.refl _)).cons_cons _
  · intro a ha
    rcases List.mem_append.mp ha with ha | ha
    · exact h.rivals a ha
    · cases List.mem_singleton.mp ha
      -- A step of the call itself would be among `after`.
      intro own
      have step : d ∈ stepsOf id.number after :=
        List.mem_filter.mpr ⟨hd, decide_eq_true ((call?_of_landing landed).trans (congrArg some own))⟩
      rw [idle] at step
      cases step

end Losses

/-! ## The invariant -/

/-- **How the steps of a call tally with its phase.** -/
inductive Tallied (id : CallId) (deeds : List Deed) : Option Call → Prop
  | unbegun : stepsOf id.number deeds = [] → Tallied id deeds none
  | loading (c : Call) (lost : List Lost) : c.phase = .loading (lost.length + 1) →
    lost.length < (c.update id).attempts → Losses id c.mutation deeds lost →
    Tallied id deeds (some c)
  | swapping (c : Call) (lost : List Lost) (read : Versioned) (before after : List Deed) :
    c.phase = .swapping (lost.length + 1) read.version (c.mutation.apply read.entry) →
    lost.length < (c.update id).attempts → Losses id c.mutation before lost →
    deeds = before ++ .loaded id (some read) :: after → stepsOf id.number after = [] →
    read.version = (landings before).length → Tallied id deeds (some c)
  | gaveUp (c : Call) (lost : List Lost) :
    c.phase = .finished (.error (.contention id.key (c.update id).attempts)) →
    lost.length = (c.update id).attempts → Losses id c.mutation deeds lost →
    Tallied id deeds (some c)
  | settled (c : Call) (e : Option Entry) : c.phase = .finished (.ok e) → Tallied id deeds (some c)

/-- A step of another call changes no tally. -/
theorem Tallied.other {id : CallId} {deeds : List Deed} {oc : Option Call} {d : Deed}
    (h : Tallied id deeds oc) (hd : d.call? ≠ some id.number) : Tallied id (deeds ++ [d]) oc := by
  cases h with
  | unbegun hn => exact .unbegun ((stepsOf_concat_other deeds hd).trans hn)
  | loading c lost hp hlt losses => exact .loading c lost hp hlt (losses.other hd)
  | swapping c lost read before after hp hlt losses hb idle hv =>
    refine .swapping c lost read before (after ++ [d]) hp hlt losses ?_ ?_ hv
    · rw [hb, List.append_assoc, List.cons_append]
    · rw [stepsOf_concat_other after hd]
      exact idle
  | gaveUp c lost hp hl losses => exact .gaveUp c lost hp hl (losses.other hd)
  | settled c e hp => exact .settled c e hp

/-- **The invariant of a key whose entry nobody removes**: its calls are in serial order, and the
steps of each tally with its phase. -/
structure Tally (key : ChannelKey) (v : View) : Prop where
  serial : Serial key v
  tallied : ∀ n, Tallied ⟨key, n⟩ v.deeds (v.calls n)

namespace Tally

variable {key : ChannelKey} {v : View}

/-- A deed that is a step of no call. -/
theorem quiet (h : Tally key v) {stored : Option Versioned} {d : Deed} (hd : d.call? = none) (n : Nat) :
    Tallied ⟨key, n⟩ (v.done stored d).deeds ((v.done stored d).calls n) :=
  (h.tallied n).other (by rw [hd]; exact fun e => nomatch e)

/-- A step of a call: the others tally as before. -/
theorem step (h : Tally key v) {stored : Option Versioned} {d : Deed} {n : Nat} {c : Call}
    {phase : Update.Phase} (hd : d.call? = some n)
    (next : Tallied ⟨key, n⟩ (v.deeds ++ [d]) (some { c with phase := phase })) (k : Nat) :
    Tallied ⟨key, k⟩ ((v.done stored d).setPhase n c phase).deeds
      (((v.done stored d).setPhase n c phase).calls k) := by
  by_cases hk : k = n
  · subst hk
    rw [View.calls_setPhase_self]
    exact next
  · rw [View.calls_setPhase_of_ne hk]
    refine (h.tallied k).other ?_
    rw [hd]
    exact fun e => hk (Option.some.inj e).symm

/-- A version that is no longer the one that was loaded has gone up: a swap succeeded since. -/
theorem overtaken (h : Tally key v) {n : Nat} {c : Call} (hc : v.calls n = some c) {a : Nat}
    {read : Versioned} {next : Entry} {before after : List Deed}
    (hp : c.phase = .swapping a read.version next)
    (hd : v.deeds = before ++ .loaded ⟨key, n⟩ (some read) :: after)
    (hv : read.version = (landings before).length)
    (refused : v.stored.map Versioned.version ≠ some read.version) :
    ∃ d ∈ after, ∃ rival, landing? d = some rival := by
  have all : landings v.deeds = landings before ++ landings after := by
    rw [hd, landings, List.filterMap_append]
    rfl
  have grown : landings after ≠ [] := by
    intro none
    rw [none, List.append_nil] at all
    obtain ⟨hi, -, -⟩ | ⟨e, -, hs⟩ := h.serial.holds
    · -- A call that loaded an entry loaded one that was put.
      have standing := h.serial.agrees n
      rw [hc] at standing
      cases standing with
      | swapping _ _ _ e _ _ hf _ => cases hi.symm.trans hf
      | loading _ _ hp' => cases hp.symm.trans hp'
      | returned _ _ _ hp' => cases hp.symm.trans hp'
      | failed _ _ hp' => cases hp.symm.trans hp'
    · refine refused ?_
      rw [hs, Option.map_some, all, hv]
  obtain ⟨rival, hr⟩ := List.exists_mem_of_ne_nil _ grown
  obtain ⟨d, hda, hl⟩ := List.mem_filterMap.mp hr
  exact ⟨d, hda, rival, hl⟩

/-- The version that a load finds counts the swaps so far. -/
theorem version_loaded (h : Tally key v) {w : Versioned} (hs : v.stored = some w) :
    w.version = (landings v.deeds).length := by
  obtain ⟨-, -, hs'⟩ | ⟨e, -, hs'⟩ := h.serial.holds
  · cases hs.symm.trans hs'
  · cases hs.symm.trans hs'
    rfl

end Tally

/-- **Every action but a removal keeps the tally.** -/
theorem tally_step {key : ChannelKey} (v : View) (a : Action) (v' : View) (h : Tally key v)
    (kept : a ≠ .remove key) (step : Seen key v a v') : Tally key v' := by
  refine ⟨serial_step v a v' h.serial kept step, ?_⟩
  cases step with
  | elsewhere _ => exact h.tallied
  | inserted e hk hs => exact h.quiet rfl
  | present e w hk hs => exact h.quiet rfl
  | got => exact h.quiet rfl
  | removed => exact absurd rfl kept
  | began n m limit hc =>
    intro k
    by_cases hk : k = n
    · subst hk
      have idle : stepsOf k v.deeds = [] := by
        have standing := h.tallied k
        rw [hc] at standing
        cases standing with
        | unbegun hn => exact hn
      simp only [Function.update_self]
      refine .loading _ [] rfl ?_ (.none _ _ idle)
      exact Nat.lt_of_lt_of_le Nat.zero_lt_one (Nat.le_max_right limit 1)
    · simp only [Function.update_of_ne hk]
      exact h.tallied k
  | taken n m limit c hc => exact h.tallied
  | unknown n hc => exact h.tallied
  | loaded n c a hc hp =>
    refine h.step rfl ?_
    have standing := h.tallied n
    rw [hc] at standing
    cases standing with
    | loading _ lost hp' hlt losses =>
      cases hp.symm.trans hp'
      cases hs : v.stored with
      | none => exact .settled _ none rfl
      | some w =>
        exact .swapping _ lost w v.deeds [] rfl hlt losses rfl rfl (h.version_loaded hs)
    | swapping _ _ _ _ _ hp' => cases hp.symm.trans hp'
    | gaveUp _ _ hp' => cases hp.symm.trans hp'
    | settled _ _ hp' => cases hp.symm.trans hp'
  | landed n c a w next hc hp hs => exact h.step rfl (.settled _ (some next) rfl)
  | refused n c a version next hc hp hs =>
    refine h.step rfl ?_
    have standing := h.tallied n
    rw [hc] at standing
    cases standing with
    | swapping _ lost read before after hp' hlt losses hd idle hv =>
      cases hp.symm.trans hp'
      obtain ⟨d, hda, rival, landed⟩ := h.overtaken hc hp' hd hv hs
      let last : Lost := ⟨read, rival, d, landed⟩
      have losses' := losses.concat read idle hda landed
      rw [← hd] at losses'
      have length : (lost ++ [last]).length = lost.length + 1 := List.length_append
      unfold Update.refused
      by_cases more : lost.length + 1 < (c.update ⟨key, n⟩).attempts
      · rw [if_pos more]
        refine .loading _ _ ?_ ?_ losses'
        · rw [length]
        · rw [length]
          exact more
      · rw [if_neg more]
        refine .gaveUp _ _ rfl ?_ losses'
        rw [length]
        exact Nat.le_antisymm hlt (Nat.not_lt.mp more)
    | loading _ _ hp' => cases hp.symm.trans hp'
    | gaveUp _ _ hp' => cases hp.symm.trans hp'
    | settled _ _ hp' => cases hp.symm.trans hp'
  | settled n c r hc hp => exact h.tallied

theorem tally_start (key : ChannelKey) : Tally key (State.view {} key) :=
  ⟨serial_start key, fun _ => .unbegun rfl⟩

theorem tally_run {key : ChannelKey} {schedule : List Action}
    (kept : Action.remove key ∉ schedule) : Tally key ((run schedule).view key) :=
  after_induction (· ≠ .remove key) tally_step (tally_start key) fun _ ha e => kept (e ▸ ha)

/-! ## What a call that gave up has behind it -/

/-- A call succeeds at most once. -/
theorem Serial.nodup_landings {key : ChannelKey} {v : View} (h : Serial key v) :
    ((landings v.deeds).map Landing.call).Nodup := by
  refine List.pairwise_iff_getElem.mpr fun i j hi hj lt same => ?_
  rw [List.length_map] at hi hj
  rw [List.getElem_map, List.getElem_map] at same
  have standing := h.agrees ((landings v.deeds)[i]).call
  generalize v.calls ((landings v.deeds)[i]).call = oc at standing
  have present : (landings v.deeds)[i] ∈ landings v.deeds := List.getElem_mem hi
  cases standing with
  | unbegun hn => exact hn _ present rfl
  | loading c a hp hn => exact hn _ present rfl
  | swapping c a version e hp hn hf hv => exact hn _ present rfl
  | failed c r hp hr hn => exact hn _ present rfl
  | returned c e place hp hf hat unique =>
    have first := unique i _ (List.getElem?_eq_getElem hi) rfl
    have second := unique j _ (List.getElem?_eq_getElem hj) same.symm
    omega

/-- The swaps within the windows of lost attempts are those of the rivals. -/
theorem landings_windows (id : CallId) (m : Mutation) (lost : List Lost) :
    landings (lost.flatMap (Lost.window id m)) = lost.map Lost.rival := by
  induction lost with
  | nil => rfl
  | cons a rest ih =>
    have own : landings (a.window id m) = [a.rival] := by
      have loaded : landing? (.loaded id (some a.read)) = none := rfl
      have swapped : landing? (.swapped id m a.read.version (m.apply a.read.entry) false) = none := rfl
      rw [Lost.window, landings, List.filterMap_cons_none loaded, List.filterMap_cons_some a.landed,
        List.filterMap_cons_none swapped, List.filterMap_nil]
    rw [List.flatMap_cons, landings, List.filterMap_append]
    show landings (a.window id m) ++ landings (rest.flatMap (Lost.window id m)) = _
    rw [own, ih]
    rfl

/-- So they are among the swaps that succeeded, and in the same order. -/
theorem Losses.rivals_sublist {id : CallId} {m : Mutation} {deeds : List Deed} {lost : List Lost}
    (h : Losses id m deeds lost) : (lost.map Lost.rival).Sublist (landings deeds) := by
  rw [← landings_windows id m lost]
  exact h.windows.filterMap landing?

namespace Tally

variable {key : ChannelKey} {v : View}

/-- A call that gave up was overtaken in every attempt it was allowed. -/
theorem overtaken_of_contention (h : Tally key v) {n : Nat} {c : Call} (hc : v.calls n = some c)
    {k : ChannelKey} {attempts : Nat}
    (hp : c.phase = .finished (.error (.contention k attempts))) :
    k = key ∧ attempts = (c.update ⟨key, n⟩).attempts ∧
      ∃ lost, Overtaken ⟨key, n⟩ c.mutation v.deeds attempts lost := by
  have standing := h.tallied n
  rw [hc] at standing
  cases standing with
  | gaveUp _ lost hp' hl losses =>
    cases hp.symm.trans hp'
    have distinct : ((lost.map Lost.rival).map Landing.call).Nodup :=
      (losses.rivals_sublist.map Landing.call).nodup h.serial.nodup_landings
    rw [List.map_map] at distinct
    exact ⟨rfl, rfl, lost, { losses with length := hl, distinct := distinct }⟩
  | loading _ _ hp' => cases hp.symm.trans hp'
  | swapping _ _ _ _ _ hp' => cases hp.symm.trans hp'
  | settled _ _ hp' => cases hp.symm.trans hp'

/-- A call and those that overtook it are different calls of the key. -/
theorem length_lt_of_overtaken (h : Tally key v) {n : Nat} {c : Call} (hc : v.calls n = some c)
    {attempts : Nat} {lost : List Lost}
    (overtaken : Overtaken ⟨key, n⟩ c.mutation v.deeds attempts lost) {numbers : List Nat}
    (all : ∀ i, v.calls i ≠ none → i ∈ numbers) : attempts < numbers.length := by
  have distinct : (n :: lost.map fun a => a.rival.call).Nodup := by
    refine List.nodup_cons.mpr ⟨fun own => ?_, overtaken.distinct⟩
    obtain ⟨a, ha, hn⟩ := List.mem_map.mp own
    exact overtaken.rivals a ha hn
  have begun : (n :: lost.map fun a => a.rival.call) ⊆ numbers := by
    intro i hi
    refine all i fun unbegun => ?_
    rcases List.mem_cons.mp hi with rfl | hi
    · cases hc.symm.trans unbegun
    · obtain ⟨a, ha, rfl⟩ := List.mem_map.mp hi
      have landed := overtaken.rivals_sublist.subset (List.mem_map_of_mem ha)
      obtain ⟨c', -, hc', -⟩ := h.serial.call_of_landing landed
      cases hc'.symm.trans unbegun
  have few := (distinct.subperm begun).length_le
  rw [List.length_cons, List.length_map, overtaken.length] at few
  exact few

end Tally

/-! ## How many calls there are -/

/-- The number of the call on a key that begins with an action. -/
def Action.begins? (key : ChannelKey) : Action → Option Nat
  | call id _ _ => if id.key = key then some id.number else none
  | _ => none

/-- The numbers of the calls on a key that a schedule begins. -/
def callsOn (key : ChannelKey) (schedule : List Action) : List Nat :=
  (schedule.filterMap (Action.begins? key)).dedup

theorem mem_callsOn {key : ChannelKey} {schedule : List Action} {n : Nat} {m : Mutation}
    {limit : Nat} (h : .call ⟨key, n⟩ m limit ∈ schedule) : n ∈ callsOn key schedule :=
  List.mem_dedup.mpr (List.mem_filterMap.mpr ⟨_, h, if_pos rfl⟩)

/-- A call that takes a step has begun. -/
theorem View.calls_of_setPhase {v : View} {n : Nat} {c : Call} {phase : Update.Phase}
    (hc : v.calls n = some c) {i : Nat} (h : (v.setPhase n c phase).calls i ≠ none) :
    v.calls i ≠ none := by
  by_cases hi : i = n
  · subst hi
    rw [hc]
    exact Option.some_ne_none c
  · rwa [View.calls_setPhase_of_ne hi] at h

/-- Every call that there is was begun by the schedule. -/
theorem begun_run (key : ChannelKey) (schedule : List Action) :
    ∀ i, ((run schedule).view key).calls i ≠ none → i ∈ callsOn key schedule := by
  refine after_induction (P := fun v => ∀ i, v.calls i ≠ none → i ∈ callsOn key schedule)
    (· ∈ schedule) ?_ (fun _ h => absurd rfl h) fun _ ha => ha
  intro v a v' h planned step i hi
  cases step with
  | began n m limit hc =>
    by_cases hn : i = n
    · subst hn
      exact mem_callsOn planned
    · simp only [Function.update_of_ne hn] at hi
      exact h i hi
  | loaded n c a hc hp => exact h i (View.calls_of_setPhase (v := v.done _ _) hc hi)
  | landed n c a w next hc hp hs => exact h i (View.calls_of_setPhase (v := v.done _ _) hc hi)
  | refused n c a version next hc hp hs =>
    exact h i (View.calls_of_setPhase (v := v.done _ _) hc hi)
  | _ => exact h i hi

/-- **A call gives up only after others got ahead.** While nobody removes the entry of a key, a call
on it that gave up had each of its attempts overtaken by the swap of another call, a different
one every time. So it does not give up if there are no more calls than it has attempts. -/
theorem gives_up_only_if_overtaken {key : ChannelKey} {schedule : List Action}
    (kept : Action.remove key ∉ schedule) {n : Nat} {c : Call}
    (hc : (run schedule).calls ⟨key, n⟩ = some c) :
    (∀ k attempts, c.phase = .finished (.error (.contention k attempts)) →
      k = key ∧ attempts = max c.limit 1 ∧
        ∃ lost, Overtaken ⟨key, n⟩ c.mutation ((run schedule).view key).deeds attempts lost) ∧
    ((callsOn key schedule).length ≤ max c.limit 1 →
      ∀ k attempts, c.phase ≠ .finished (.error (.contention k attempts))) := by
  have tally := tally_run kept
  refine ⟨fun k attempts hp => tally.overtaken_of_contention hc hp, ?_⟩
  intro few k attempts hp
  obtain ⟨-, rfl, lost, overtaken⟩ := tally.overtaken_of_contention hc hp
  have more := tally.length_lt_of_overtaken hc overtaken (begun_run key schedule)
  exact absurd few (Nat.not_le.mpr more)

/-- Two calls read the same entry. The one that swaps second is allowed one attempt only. -/
def overtaking : List Action :=
  let source : ChannelKey := ⟨"source"⟩
  [.put (.empty source), .call ⟨source, 0⟩ (.addRoute ⟨"a"⟩ []) 1,
    .call ⟨source, 1⟩ (.addRoute ⟨"b"⟩ ["k"]) 2, .turn ⟨source, 0⟩, .turn ⟨source, 1⟩,
    .turn ⟨source, 1⟩, .turn ⟨source, 0⟩]

/-- It gives up, and was overtaken once; the other is allowed as many attempts as there are calls,
and does not. -/
theorem gives_up_only_if_overtaken_overtaking :
    let source : ChannelKey := ⟨"source"⟩
    let first : Call := ⟨.addRoute ⟨"a"⟩ [], 1, .finished (.error (.contention source 1))⟩
    Action.remove source ∉ overtaking ∧ (run overtaking).calls ⟨source, 0⟩ = some first ∧
      (∃ lost, Overtaken ⟨source, 0⟩ first.mutation ((run overtaking).view source).deeds 1 lost) ∧
      ∃ second, (run overtaking).calls ⟨source, 1⟩ = some second ∧
        (callsOn source overtaking).length ≤ max second.limit 1 ∧
        ∀ k attempts, second.phase ≠ .finished (.error (.contention k attempts)) := by
  intro source first
  have kept : Action.remove source ∉ overtaking := by decide
  refine ⟨kept, rfl, ?_, _, rfl, by decide, ?_⟩
  · exact ((gives_up_only_if_overtaken kept (n := 0) (c := first) rfl).1 source 1 rfl).2.2
  · exact (gives_up_only_if_overtaken kept (n := 1) rfl).2 (by decide)

end ChannelRouting.Overlap
