import ChannelRouting.Proofs.Service.Rounds
import ChannelRouting.Proofs.Service.Tally

/-!
# What a one-shot run comes to

Whatever the order in which the loops of a service take turns, once all of them have stopped it
has come to the same: `Concluded` gives the totals and the deliveries as the configuration has
them. Every loop that has stopped drained its source, and it routed the messages for that source as
the configuration says (`Ended`).

`one_shot_outcome` puts this together: an accepted configuration is set up without fail, every
schedule that gives the loops enough turns stops them, and every schedule that stops them
concludes the run.
-/

namespace ChannelRouting.Service

open Loop (Course Deed Round)

variable {c : Config} {id : Nat → Uuid} {start s : Service} {journal : List (Nat × Deed)}

/-! ## A service that is ready -/

namespace Ready

theorem run_eq (h : Ready c id start) {i : Nat} {setting : RouterSetting}
    (hi : c.routers[i]? = some setting) :
    start.runs[i]? = some (runOf c { id := i, channel := ⟨setting.source⟩ }) := by
  rw [h.runs, List.getElem?_map, List.getElem?_zipIdx, hi, Option.map_some, Option.map_some, Nat.zero_add]

/-- Every loop is that of a configured source. -/
theorem setting_of_run (h : Ready c id start) {i : Nat} {r : Run} (hr : start.runs[i]? = some r) :
    ∃ setting, c.routers[i]? = some setting ∧
      r = runOf c { id := i, channel := ⟨setting.source⟩ } := by
  have within := (List.getElem?_eq_some_iff.mp hr).1
  rw [h.runs, List.length_map, List.length_zipIdx] at within
  have hi := List.getElem?_eq_getElem within
  exact ⟨_, hi, Option.some.inj (hr.symm.trans (h.run_eq hi))⟩

theorem setting_of_mem (h : Ready c id start) {r : Run} (hr : r ∈ start.runs) :
    ∃ i, ∃ setting ∈ c.routers, r = runOf c { id := i, channel := ⟨setting.source⟩ } := by
  obtain ⟨i, hi⟩ := List.mem_iff_getElem?.mp hr
  obtain ⟨setting, configured, run⟩ := h.setting_of_run hi
  exact ⟨i, setting, List.mem_of_getElem? configured, run⟩

theorem fresh (h : Ready c id start) : ∀ r ∈ start.runs, r.phase = .ready := by
  intro r hr
  obtain ⟨i, setting, -, rfl⟩ := h.setting_of_mem hr
  rfl

/-- There is a loop for each source at all times. -/
theorem length_runs (h : Ready c id start) (told : Told start journal s) :
    s.runs.length = c.routers.length := by
  rw [told.length, h.runs, List.length_map, List.length_zipIdx]

/-- **Every loop drains a closed source of its own.** -/
theorem draining (h : Ready c id start) (sound : c.Sound) : start.Draining where
  drains r hr := by
    obtain ⟨i, setting, configured, rfl⟩ := h.setting_of_mem hr
    refine ⟨setting.entry, h.stocked.capacity, ?_, h.entry setting configured⟩
    exact (h.stocked.closed _).mpr (List.mem_map_of_mem configured)
  apart := by
    have same : (start.runs.map fun r => r.loop.source) = c.sources.map ChannelKey.mk := by
      rw [h.runs, List.map_map, ← map_source_zipIdx, List.map_map]
      rfl
    rw [same]
    exact sound.distinct.map fun _ _ => congrArg ChannelKey.name

end Ready

/-! ## A loop at its end -/

theorem routingKey_seedMessage (id : Uuid) (s : SeedMessage) :
    (seedMessage id s).routingKey = s.routingKey.getD defaultRoutingKey := by
  unfold seedMessage
  cases s.routingKey with
  | none => rfl
  | some key => exact Message.routingKey_withRoutingKey

/-- **How the loop of a source stands at its end.** -/
structure Ended (c : Config) (id : Nat → Uuid) (setting : RouterSetting) (r : Run) (deeds : List Deed)
    (rounds : List Round) : Prop where
  /-- It drained the source. -/
  deeds : deeds = (Course.opened rounds .drained).deeds ⟨setting.source⟩
  outcome : r.outcome? = some (.ok (c.tally id (c.share ⟨setting.source⟩)))
  /-- It routed the messages for the source as the configuration says. -/
  routes : List.Forall₂ (c.Routes id) (c.share ⟨setting.source⟩) rounds

/-- Attempts on a node that is ready go as the configuration says. -/
theorem Ready.tries_eq (ready : Ready c id start) (sound : c.Sound) {setting : RouterSetting}
    (configured : setting ∈ c.routers) {x : SeedMessage × Nat} (own : setting.source = x.1.source) :
    (setting.entry.targets (seedMessage (id x.2) x.1)).toList.map (.on start.node) = c.tries x.1 := by
  rw [setting.targets_entry, routingKey_seedMessage, ← sound.targetsFor_eq configured own, Config.tries]
  refine List.map_congr_left fun t _ => ?_
  unfold Loop.Attempt.on
  exact if_congr (ready.stocked.closed t) rfl rfl

/-! ## All loops together -/

/-- The counters with those of one more loop, if it drained its source. -/
def pooled (total : LoopStats) : Except LoopError LoopStats → LoopStats
  | .ok stats =>
    { received := total.received + stats.received
      forwarded := total.forwarded + stats.forwarded
      dropped := total.dropped + stats.dropped
      sendErrors := total.sendErrors ++ stats.sendErrors }
  | .error _ => total

theorem totals_eq (s : Service) : s.totals = (s.runs.filterMap Run.outcome?).foldl pooled {} := by
  have plain : s.outcomes.map Prod.snd = s.runs.filterMap Run.outcome? := by
    rw [outcomes, List.map_filterMap]
    refine List.filterMap_congr fun r _ => ?_
    rw [Option.map_map]
    exact Option.map_id'
  rw [← plain, List.foldl_map, totals]
  congr 1

/-- Loops that route different messages count what one loop would count of all of them. -/
theorem pooled_tally (done work : List (SeedMessage × Nat)) :
    pooled (c.tally id done) (.ok (c.tally id work)) = c.tally id (done ++ work) := by
  simp only [pooled, Config.tally, List.length_append, List.map_append, List.sum_append,
    List.countP_append, List.flatMap_append]

theorem foldl_pooled (settings : List RouterSetting) (done : List (SeedMessage × Nat)) :
    (settings.map fun x => Except.ok (c.tally id (c.share ⟨x.source⟩))).foldl pooled (c.tally id done) =
      c.tally id (done ++ settings.flatMap fun x => c.share ⟨x.source⟩) := by
  induction settings generalizing done with
  | nil => rw [List.flatMap_nil, List.append_nil]; rfl
  | cons x rest ih =>
    rw [List.map_cons, List.foldl_cons, pooled_tally, ih, List.flatMap_cons, List.append_assoc]

theorem outcomes_eq {settings : List RouterSetting} {runs : List Run}
    (counted : List.Forall₂ (fun x r => r.outcome? = some (.ok (c.tally id (c.share ⟨x.source⟩))))
      settings runs) :
    runs.filterMap Run.outcome? = settings.map fun x => .ok (c.tally id (c.share ⟨x.source⟩)) := by
  induction counted with
  | nil => rfl
  | cons first _ ih => rw [List.filterMap_cons_some first, ih, List.map_cons]

/-- The deliveries of all loops to a target are those of one loop after another. -/
theorem deliveries_perm (ready : Ready c id start) (told : Told start journal s) (t : ChannelKey) :
    (c.routers.zipIdx.flatMap fun x => Loop.deliveries t (deedsOf x.2 journal)).Perm
      (Loop.deliveries t (journal.map Prod.snd)) := by
  have places : c.routers.zipIdx.map Prod.snd = List.range' 0 c.routers.length :=
    List.zipIdx_map_snd 0 c.routers
  have known (x : Nat × Deed) (hx : x ∈ journal) : x.1 ∈ c.routers.zipIdx.map Prod.snd := by
    obtain ⟨q, hq, -⟩ := told.own x hx
    obtain ⟨setting, hi, -⟩ := ready.setting_of_run hq
    exact List.mem_map.mpr ⟨(setting, x.1), List.mk_mem_zipIdx_iff_getElem?.mpr hi, rfl⟩
  have all := (perm_fibers Prod.fst (places ▸ List.nodup_range') known).map Prod.snd
  rw [List.flatMap_map, List.map_flatMap] at all
  have delivered := all.filterMap (Loop.Deed.delivery? t)
  rw [List.filterMap_flatMap] at delivered
  exact delivered

/-! ## A service that has stopped -/

section Stopped

variable (sound : c.Sound) (ready : Ready c id start) (told : Told start journal s)
  (stopped : s.Stopped)

include sound ready told stopped

/-- The rounds of a loop that has stopped are those of the messages of its source, in order. -/
theorem rounds_of_stopped {i : Nat} {setting : RouterSetting} (hi : c.routers[i]? = some setting)
    {r : Run} (hr : s.runs[i]? = some r) :
    ∃ rounds, deedsOf i journal = (Course.opened rounds .drained).deeds ⟨setting.source⟩ ∧
      r.outcome? = some (.ok (({} : LoopStats).rounds rounds)) ∧
      (c.share ⟨setting.source⟩).map (fun x => seedMessage (id x.2) x.1) = rounds.map Round.message ∧
      ∀ round ∈ rounds, round.attempts =
        (setting.entry.targets round.message).toList.map (.on start.node) := by
  have configured := List.mem_of_getElem? hi
  have h₀ := ready.run_eq hi
  obtain ⟨outcome, out⟩ := Option.isSome_iff_exists.mp (stopped r (List.mem_of_getElem? hr))
  obtain ⟨course, deeds, result⟩ : ∃ course : Course,
      deedsOf i journal = course.deeds ⟨setting.source⟩ ∧
        outcome = course.outcome ⟨setting.source⟩ {} := by
    obtain ⟨course, -, deeds, result⟩ := (told.trail i _ r h₀ hr).ended out
    exact ⟨course, deeds, result⟩
  have within := deeds ▸ deedsOf_subset i journal
  obtain ⟨rounds, rfl, tried⟩ :=
    Loop.course_of_serves told.serves (ready.entry setting configured) within
  -- The loop received all that was on its source, and nobody else received any of it.
  have alone (j : Nat) (q : Run) (hq : start.runs[j]? = some q)
      (same : q.loop.source = ⟨setting.source⟩) : j = i := by
    by_contra other
    exact (ready.draining sound).source_ne hq h₀ other same
  have closed : (start.node.transport.queue ⟨setting.source⟩).closed = true :=
    (ready.stocked.closed _).mpr (List.mem_map_of_mem configured)
  have empty := (told.serves.drained ⟨setting.source⟩
    (within (List.mem_append_right _ List.mem_cons_self))).2
  have received := told.serves.messages_eq closed
  rw [empty, List.append_nil, ready.stocked.messages, told.receipts_eq alone, deeds,
    Loop.receipts_course] at received
  exact ⟨rounds, deeds, out.trans (congrArg some result), received.trans (List.append_nil _), tried⟩

theorem ended_of_stopped {i : Nat} {setting : RouterSetting} (hi : c.routers[i]? = some setting)
    {r : Run} (hr : s.runs[i]? = some r) :
    ∃ rounds, Ended c id setting r (deedsOf i journal) rounds := by
  obtain ⟨rounds, deeds, out, taken, tried⟩ := rounds_of_stopped sound ready told stopped hi hr
  have paired : List.Forall₂ (fun x round => seedMessage (id x.2) x.1 = round.message)
      (c.share ⟨setting.source⟩) rounds := by
    rwa [← List.forall₂_eq_eq_eq, List.forall₂_map_left_iff, List.forall₂_map_right_iff] at taken
  obtain ⟨length, messages⟩ := List.forall₂_iff_zip.mp paired
  have routes : List.Forall₂ (c.Routes id) (c.share ⟨setting.source⟩) rounds := by
    refine List.forall₂_iff_zip.mpr ⟨length, fun {x round} both => ?_⟩
    obtain ⟨hx, hround⟩ := List.of_mem_zip both
    have own := congrArg ChannelKey.name (of_decide_eq_true (List.mem_filter.mp hx).2)
    refine ⟨(messages both).symm, ?_⟩
    rw [tried round hround, ← messages both, ready.tries_eq sound (List.mem_of_getElem? hi) own.symm]
  exact ⟨rounds, deeds, Config.rounds_eq_tally routes ▸ out, routes⟩

/-- Every loop has counted the messages of its source. -/
theorem outcomes_of_stopped :
    List.Forall₂ (fun setting r => r.outcome? = some (.ok (c.tally id (c.share ⟨setting.source⟩))))
      c.routers s.runs := by
  refine List.forall₂_iff_get.mpr ⟨(ready.length_runs told).symm, fun i hi hr => ?_⟩
  obtain ⟨rounds, ended⟩ := ended_of_stopped sound ready told stopped
    (List.getElem?_eq_getElem hi) (List.getElem?_eq_getElem hr)
  exact ended.outcome

/-- **The totals** are those of all messages. -/
theorem totals_of_stopped :
    s.totals = c.tally id (c.routers.flatMap fun x => c.share ⟨x.source⟩) := by
  rw [totals_eq, outcomes_eq (outcomes_of_stopped sound ready told stopped)]
  exact foldl_pooled c.routers []

/-- A target that is a source has nothing in the end. -/
theorem messages_of_source {t : ChannelKey} (source : t.name ∈ c.sources) :
    s.node.transport.messages t = [] := by
  obtain ⟨setting, configured, named⟩ := List.mem_map.mp source
  obtain ⟨i, within, rfl⟩ := List.getElem_of_mem configured
  have here : i < s.runs.length := ready.length_runs told ▸ within
  obtain ⟨rounds, ended⟩ := ended_of_stopped sound ready told stopped
    (List.getElem?_eq_getElem within) (List.getElem?_eq_getElem here)
  have drained : .received t (.ok none) ∈ deedsOf i journal := by
    rw [ended.deeds, show t = ⟨_⟩ from congrArg ChannelKey.mk named.symm]
    exact List.mem_append_right _ List.mem_cons_self
  exact (told.serves.drained t (deedsOf_subset i journal drained)).2

/-- What a loop delivered to a target that is no source are the messages of its source that have the
target. -/
theorem deliveries_of_loop {t : ChannelKey} (opened : t.name ∉ c.sources)
    {x : RouterSetting × Nat} (hx : x ∈ c.routers.zipIdx) :
    (Loop.deliveries t (deedsOf x.2 journal)).length =
      (c.share ⟨x.1.source⟩).countP fun y => t ∈ c.targetsFor y.1 := by
  have hi := List.mk_mem_zipIdx_iff_getElem?.mp hx
  have here : x.2 < s.runs.length := ready.length_runs told ▸ (List.getElem?_eq_some_iff.mp hi).1
  obtain ⟨rounds, ended⟩ := ended_of_stopped sound ready told stopped hi
    (List.getElem?_eq_getElem here)
  rw [ended.deeds, Loop.deliveries_course]
  exact Config.length_delivered ended.routes opened

omit stopped in
/-- All that a target has that is no source was delivered by the loops. -/
theorem messages_eq_deliveries {t : ChannelKey} (opened : t.name ∉ c.sources) :
    s.node.transport.messages t = Loop.deliveries t (journal.map Prod.snd) := by
  have unseeded : c.share t = [] := by
    refine List.filter_eq_nil_iff.mpr fun x hx own => opened ?_
    rw [← of_decide_eq_true own]
    exact sound.known x.1 (List.fst_mem_of_mem_zipIdx hx)
  have empty : start.node.transport.messages t = [] := by
    rw [ready.stocked.messages]
    exact congrArg (List.map _) unseeded
  have untaken : Loop.receipts t (journal.map Prod.snd) = [] := by
    refine told.receipts_nil fun q hq same => opened ?_
    obtain ⟨i, setting, configured, rfl⟩ := ready.setting_of_mem hq
    rw [← same]
    exact List.mem_map_of_mem configured
  have balance := told.serves.conserves t
  simp only [empty, untaken, List.nil_append] at balance
  exact balance.symm

/-- **The deliveries to a target** that is no source. -/
theorem messages_of_target {t : ChannelKey} (opened : t.name ∉ c.sources) :
    (s.node.transport.messages t).length = c.seeds.countP fun x => t ∈ c.targetsFor x := by
  have loops (x : RouterSetting × Nat) (hx : x ∈ c.routers.zipIdx) :=
    deliveries_of_loop sound ready told stopped opened hx
  calc (s.node.transport.messages t).length
      = (Loop.deliveries t (journal.map Prod.snd)).length := by
        rw [messages_eq_deliveries sound ready told opened]
    _ = (c.routers.zipIdx.map fun x => (Loop.deliveries t (deedsOf x.2 journal)).length).sum := by
        rw [← (deliveries_perm ready told t).length_eq, List.length_flatMap]
    _ = (c.routers.map fun r => (c.share ⟨r.source⟩).countP fun y => t ∈ c.targetsFor y.1).sum := by
        rw [List.map_congr_left loops, map_zipIdx c.routers fun r =>
          (c.share ⟨r.source⟩).countP fun y => t ∈ c.targetsFor y.1]
    _ = (c.routers.flatMap fun r => c.share ⟨r.source⟩).countP fun y => t ∈ c.targetsFor y.1 :=
        List.countP_flatMap.symm
    _ = c.seeds.zipIdx.countP fun y => t ∈ c.targetsFor y.1 := (c.perm_shares sound).countP_eq _
    _ = c.seeds.countP fun x => t ∈ c.targetsFor x := countP_zipIdx c.seeds fun x => t ∈ c.targetsFor x

end Stopped

/-! ## The outcome -/

/-- **What a run of a configuration comes to.** -/
structure Concluded (c : Config) (id : Nat → Uuid) (s : Service) : Prop where
  /-- There is a loop for each source. -/
  loops : s.runs.length = c.routers.length
  /-- Every loop drained its source. -/
  drained : ∀ r ∈ s.runs, ∃ stats, r.outcome? = some (.ok stats)
  totals : c.Counts id s.totals
  /-- The targets that are listed are those of the configured routes. -/
  listed : ∀ t, t ∈ s.deliveries.map Prod.fst ↔ ∃ r ∈ c.routers, ∃ x ∈ r.routes, ⟨x.target⟩ = t
  /-- They are listed in ascending order, so each of them once. -/
  ascending : (s.deliveries.map Prod.fst).Pairwise (· < ·)
  delivered : ∀ x ∈ s.deliveries, x.2 = c.delivered x.1

theorem concluded (sound : c.Sound) (ready : Ready c id start) (told : Told start journal s)
    (stopped : s.Stopped) : Concluded c id s := by
  have outcomes := outcomes_of_stopped sound ready told stopped
  have targets : s.deliveries.map Prod.fst = (targetsOf c).toList := by
    rw [deliveries, told.targets, ready.targets, List.map_map]
    exact List.map_id _
  refine ⟨outcomes.length_eq.symm, fun r hr => ?_, ?_, fun t => ?_, ?_, fun x hx => ?_⟩
  · obtain ⟨i, within, rfl⟩ := List.getElem_of_mem hr
    exact ⟨_, outcomes.get (outcomes.length_eq ▸ within) within⟩
  · rw [totals_of_stopped sound ready told stopped]
    exact Config.counts_of_perm (c.perm_shares sound)
  · rw [targets, ← SortedSet.mem_def, targetsOf, SortedSet.mem_ofList, List.mem_flatMap]
    simp only [List.mem_map]
  · rw [targets]
    exact (targetsOf c).ascending
  · obtain ⟨t, -, rfl⟩ := List.mem_map.mp hx
    show (s.node.transport.messages t).length = c.delivered t
    unfold Config.delivered
    split
    · next source => rw [messages_of_source sound ready told stopped source, List.length_nil]
    · next opened => exact messages_of_target sound ready told stopped opened

/-- **Two runs counted the same.** -/
structure Tallies (s s' : Service) : Prop where
  received : s.totals.received = s'.totals.received
  forwarded : s.totals.forwarded = s'.totals.forwarded
  dropped : s.totals.dropped = s'.totals.dropped
  sendFailures : s.totals.sendErrors.length = s'.totals.sendErrors.length
  deliveries : s.deliveries = s'.deliveries

/-- The deliveries of a run that has come to its end. -/
theorem Concluded.deliveries_eq (h : Concluded c id s) :
    s.deliveries = (s.deliveries.map Prod.fst).map fun t => (t, c.delivered t) := by
  rw [List.map_map]
  refine (List.map_id s.deliveries).symm.trans (List.map_congr_left fun x hx => ?_)
  exact Prod.ext rfl (h.delivered x hx)

/-- **Only the sources and the messages matter** to what a run comes to. -/
theorem Concluded.tallies {c' : Config} {id' : Nat → Uuid} {s' : Service} (h : Concluded c id s)
    (h' : Concluded c' id' s') (routers : c'.routers = c.routers) (seeds : c'.seeds = c.seeds) :
    Tallies s s' := by
  have keys : s.deliveries.map Prod.fst = s'.deliveries.map Prod.fst :=
    SortedSet.eq_of_ascending h.ascending h'.ascending fun t => by
      rw [h.listed, h'.listed, routers]
  obtain ⟨loops, store, settings, messages⟩ := c
  obtain ⟨loops', store', settings', messages'⟩ := c'
  cases routers
  cases seeds
  refine ⟨?_, ?_, ?_, ?_, ?_⟩
  · exact h.totals.received.trans h'.totals.received.symm
  · exact h.totals.forwarded.trans h'.totals.forwarded.symm
  · exact h.totals.dropped.trans h'.totals.dropped.symm
  · exact h.totals.sendFailures.trans h'.totals.sendFailures.symm
  · rw [h.deliveries_eq, h'.deliveries_eq, keys]
    rfl

/-- **A one-shot run** from the set-up on. -/
structure Completes (c : Config) (id : Nat → Uuid) (start : Service) : Prop where
  /-- Whatever the order in which the loops took turns, the run has come to what the configuration
  says once all of them have stopped. -/
  concludes : ∀ schedule, (start.after schedule).Stopped → Concluded c id (start.after schedule)
  /-- They have stopped once each of them had enough turns, in whatever order. -/
  stops : ∀ schedule, (∀ i r, start.runs[i]? = some r → start.patience r ≤ schedule.count i) →
    (start.after schedule).Stopped
  /-- One loop after another is such an order. -/
  settles : start.settle.Stopped ∧ Concluded c id start.settle
  /-- Neither the order matters to the counts, nor anything but the sources and the messages. -/
  tallies : ∀ text' c' id' start', Config.parse text' = .ok c' → c'.routers = c.routers →
    c'.seeds = c.seeds → Service.start c' id' = .ok start' → ∀ schedule schedule',
    (start.after schedule).Stopped → (start'.after schedule').Stopped →
    Tallies (start.after schedule) (start'.after schedule')

/-- A service that is ready comes to its conclusion by every schedule that stops it. -/
theorem Ready.concludes (ready : Ready c id start) (sound : c.Sound) (schedule : List Nat)
    (stopped : (start.after schedule).Stopped) : Concluded c id (start.after schedule) := by
  obtain ⟨journal, told⟩ := told_after ready.fresh schedule
  exact concluded sound ready told stopped

/-- **The outcome of a one-shot run**: a configuration that is accepted is set up without fail, and
its run completes. -/
theorem one_shot_outcome {text : String} (accepted : Config.parse text = .ok c) (id : Nat → Uuid) :
    ∃ start, Service.start c id = .ok start ∧ Completes c id start := by
  have sound := Config.sound_of_parse accepted
  obtain ⟨start, started, ready⟩ := start_ready sound id
  have draining := ready.draining sound
  obtain ⟨schedule, settled, stopped⟩ := draining.settle_eq ready.fresh
  refine ⟨start, started, ready.concludes sound, fun schedule enough => ?_, ?_, ?_⟩
  · refine draining.stopped fun i r hr => Nat.le_trans (toGo_le_patience ?_) (enough i r hr)
    exact ready.fresh r (List.mem_of_getElem? hr)
  · rw [settled]
    exact ⟨stopped, ready.concludes sound schedule stopped⟩
  · intro text' c' id' start' accepted' routers seeds started' schedule schedule' stopped stopped'
    have sound' := Config.sound_of_parse accepted'
    obtain ⟨start₁, started₁, ready'⟩ := start_ready sound' id'
    cases started₁.symm.trans started'
    exact (ready.concludes sound schedule stopped).tallies
      (ready'.concludes sound' schedule' stopped') routers seeds

/-- Two sources, the second of which is a target of the first and has no strategy. -/
def crossing : Config where
  routers :=
    [{ source := "a", strategy := some .fanout, routes := [{ target := "x" }, { target := "b" }] },
      { source := "b" }]
  seeds := [{ source := "a", body := "1" }, { source := "b", body := "2" }]

/-- Its text. -/
def crossingText : String :=
  "\x7brouters:[" ++
  "\x7bsource:\"a\",strategy:\x7btype:\"fanout\"\x7d," ++
  "routes:[\x7btarget:\"x\"\x7d,\x7btarget:\"b\"\x7d]\x7d," ++
  "\x7bsource:\"b\"\x7d]," ++
  "seed_messages:[\x7bsource:\"a\",body:\"1\"\x7d,\x7bsource:\"b\",body:\"2\"\x7d]\x7d"

/-- The message for both targets of `a` reaches the one that is no source, and the one on `b` has no
target. -/
theorem one_shot_outcome_crossing :
    Config.parse crossingText = .ok crossing ∧
      ∃ start, Service.start crossing Uuid.ofNat = .ok start ∧ Completes crossing Uuid.ofNat start ∧
        start.settle.totals.forwarded = 1 ∧ start.settle.totals.dropped = 1 ∧
        start.settle.totals.sendErrors.length = 1 := by
  have accepted : Config.parse crossingText = .ok crossing := by decide +kernel
  obtain ⟨start, started, completes⟩ := one_shot_outcome accepted Uuid.ofNat
  have totals := completes.settles.2.totals
  refine ⟨accepted, start, started, completes, ?_, ?_, ?_⟩
  · exact totals.forwarded.trans (by decide +kernel)
  · exact totals.dropped.trans (by decide +kernel)
  · exact totals.sendFailures.trans (by decide +kernel)

end ChannelRouting.Service
