import ChannelRouting.Proofs.Service.Settings
import ChannelRouting.Proofs.Store.Agreement
import ChannelRouting.Proofs.Transport.Answer
import ChannelRouting.Service

/-!
# Setting up a one-shot run

A run of a sound configuration is set up without fail, and `Ready` says what is there before
the first step: a loop for each source, with an entry that is as the configuration says; every
source holds its messages, in the order of the configuration, and is closed; the other channels
are open and empty; nothing bounds a channel.

`Yields` is what is shown of each step of a set-up: it succeeds, and of its result and of the
node after it something holds. Loops keep an invariant of the elements that are done. The store
is seen as the map of its entries, since both kinds of store perform as the map does.
-/

namespace ChannelRouting.Service

section Steps

variable {α β : Type} {n : Node}

/-- **A step of a set-up succeeds**, and of its result and the node after it something holds. -/
def Yields (x : Setup α) (n : Node) (Q : α → Node → Prop) : Prop :=
  ∃ a n', x.run.run n = (.ok a, n') ∧ Q a n'

theorem yields_pure {a : α} {Q : α → Node → Prop} (h : Q a n) : Yields (pure a) n Q :=
  ⟨a, n, rfl, h⟩

theorem yields_bind {x : Setup α} {f : α → Setup β} {Q : α → Node → Prop} {S : β → Node → Prop}
    (first : Yields x n Q) (next : ∀ a n', Q a n' → Yields (f a) n' S) : Yields (x >>= f) n S := by
  obtain ⟨a, n₁, hx, hq⟩ := first
  obtain ⟨b, n₂, hf, hs⟩ := next a n₁ hq
  refine ⟨b, n₂, ?_, hs⟩
  have ran : x n = (.ok a, n₁) := hx
  show ExceptT.bindCont f (x n).1 (x n).2 = _
  rw [ran]
  exact hf

theorem Yields.imp {x : Setup α} {Q S : α → Node → Prop} (h : Yields x n Q)
    (weaker : ∀ a n', Q a n' → S a n') : Yields x n S :=
  let ⟨a, n', hx, hq⟩ := h
  ⟨a, n', hx, weaker a n' hq⟩

/-- A loop keeps an invariant of the elements that are done. -/
theorem yields_forM {f : α → Setup Unit} (Inv : List α → Node → Prop) {l : List α}
    (step : ∀ done a rest n, l = done ++ a :: rest → Inv done n →
      Yields (f a) n fun _ n' => Inv (done ++ [a]) n') (start : Inv [] n) :
    Yields (l.forM f) n fun _ n' => Inv l n' := by
  suffices from_ : ∀ rest done n, l = done ++ rest → Inv done n →
      Yields (rest.forM f) n fun _ n' => Inv l n' from from_ l [] n rfl start
  intro rest
  induction rest with
  | nil =>
    intro done n all inv
    rw [List.append_nil] at all
    exact yields_pure (all ▸ inv)
  | cons a rest ih =>
    intro done n all inv
    refine yields_bind (step done a rest n all inv) fun _ n' inv' => ?_
    exact ih (done ++ [a]) n' (by rw [all, List.append_assoc]; rfl) inv'

/-- The same of a loop that is written with `for`. -/
theorem yields_forIn {f : α → Setup Unit} (Inv : List α → Node → Prop) {l : List α}
    (step : ∀ done a rest n, l = done ++ a :: rest → Inv done n →
      Yields (f a) n fun _ n' => Inv (done ++ [a]) n') (start : Inv [] n) :
    Yields (forIn l PUnit.unit fun a _ => do f a; pure (.yield PUnit.unit)) n fun _ n' => Inv l n' := by
  have same : (forIn l PUnit.unit fun a _ => do f a; pure (.yield PUnit.unit)) = l.forM f := by
    clear step start
    induction l with
    | nil => rfl
    | cons a rest ih =>
      rw [List.forIn_cons, bind_assoc]
      simp only [pure_bind]
      rw [ih]
      rfl
  rw [same]
  exact yields_forM Inv step start

/-- The same of a loop that collects results. -/
theorem yields_mapM {f : α → Setup β} (g : α → β) (Inv : List α → Node → Prop) {l : List α}
    (step : ∀ done a rest n, l = done ++ a :: rest → Inv done n →
      Yields (f a) n fun b n' => b = g a ∧ Inv (done ++ [a]) n') (start : Inv [] n) :
    Yields (l.mapM f) n fun bs n' => bs = l.map g ∧ Inv l n' := by
  suffices from_ : ∀ rest done n, l = done ++ rest → Inv done n →
      Yields (rest.mapM f) n fun bs n' => bs = rest.map g ∧ Inv l n' from from_ l [] n rfl start
  intro rest
  induction rest with
  | nil =>
    intro done n all inv
    rw [List.append_nil] at all
    exact yields_pure ⟨rfl, all ▸ inv⟩
  | cons a rest ih =>
    intro done n all inv
    rw [List.mapM_cons]
    refine yields_bind (step done a rest n all inv) fun b n₁ ⟨hb, inv₁⟩ => ?_
    have later := ih (done ++ [a]) n₁ (by rw [all, List.append_assoc]; rfl) inv₁
    exact yields_bind later fun bs n₂ ⟨hbs, inv₂⟩ => yields_pure ⟨by rw [hb, hbs]; rfl, inv₂⟩

end Steps

/-! ## The calls of a set-up -/

theorem yields_liftM {α : Type} {call : StateM Node α} {n : Node} {Q : α → Node → Prop}
    (h : Q (call n).1 (call n).2) : Yields (liftM call) n Q := ⟨_, _, rfl, h⟩

/-- A call of a router that succeeds. -/
theorem yields_routing {α : Type} {wrap : RouterError → ServiceError}
    {call : StateM Node (Except RouterError α)} {n n' : Node} {a : α} {Q : α → Node → Prop}
    (h : call n = (.ok a, n')) (hq : Q a n') : Yields (routing wrap call) n Q := by
  have called : Yields (liftM call) n fun answer n₁ => answer = .ok a ∧ n₁ = n' :=
    yields_liftM (by rw [h]; exact ⟨rfl, rfl⟩)
  refine yields_bind called ?_
  rintro _ _ ⟨rfl, rfl⟩
  exact yields_pure hq

/-- An operation on the store of a node, which leaves the transport alone. -/
structure Did (op : Store.Operation) (n n' : Node) : Prop where
  transport : n'.transport = n.transport
  entry? : n'.store.entry? = op.on n.store.entry?

theorem yields_openRouter (id : Nat) (source : String) (n : Node) :
    Yields (openRouter id source) n fun r n' =>
      r = { id := id, channel := ⟨source⟩ } ∧ Did (.putIfAbsent (.empty ⟨source⟩)) n n' := by
  have performs := n.store.performs (.putIfAbsent (.empty ⟨source⟩))
  have answered : (n.store.putIfAbsent (.empty ⟨source⟩)).1 = _ := performs.answer
  have called : Router.open_ Node.storeAccess n.registry id ⟨source⟩ n =
      (.ok ({ id := id, channel := ⟨source⟩ }, n.registry.attach { id := id, channel := ⟨source⟩ }),
        { n with store := (n.store.putIfAbsent (.empty ⟨source⟩)).2 }) := by
    unfold Router.open_
    have put : Node.storeAccess.putIfAbsent (.empty ⟨source⟩) n =
        ((n.store.putIfAbsent (.empty ⟨source⟩)).1,
          { n with store := (n.store.putIfAbsent (.empty ⟨source⟩)).2 }) := rfl
    rw [answered] at put
    simp only [bind, StateT.bind, put]
    rfl
  have routed : Yields
      (routing (.opening source) (Router.open_ Node.storeAccess n.registry id ⟨source⟩)) n
      fun x n₁ => x.1 = { id := id, channel := ⟨source⟩ } ∧
        Did (.putIfAbsent (.empty ⟨source⟩)) n n₁ :=
    yields_routing called ⟨rfl, rfl, performs.effect⟩
  have got : Yields (get : Setup Node) n fun node n₁ => node = n ∧ n₁ = n := ⟨n, n, rfl, rfl, rfl⟩
  refine yields_bind got ?_
  rintro _ _ ⟨rfl, rfl⟩
  refine yields_bind routed ?_
  rintro ⟨r, registry⟩ n₁ ⟨rfl, did⟩
  exact ⟨_, _, rfl, rfl, did.transport, did.entry?⟩

theorem yields_mutate (r : Router) (opened : r.closed = false) (announcement : Event) (m : Mutation)
    (n : Node) :
    Yields (discard (routing .routing (r.mutate Node.storeAccess announcement m))) n
      fun _ n' => Did (.execute r.channel m) n n' := by
  have performs := n.store.performs (.execute r.channel m)
  have called : r.mutate Node.storeAccess announcement m n =
      (Router.answer (n.store.execute r.channel m).1, { n with store := (n.store.execute r.channel m).2 }) := by
    unfold Router.mutate Router.whenOpen
    rw [opened]
    rfl
  have answered : (n.store.execute r.channel m).1 = _ := performs.answer
  rw [answered] at called
  have done : Yields (routing .routing (r.mutate Node.storeAccess announcement m)) n
      fun _ n' => Did (.execute r.channel m) n n' := yields_routing called ⟨rfl, performs.effect⟩
  exact yields_bind done fun _ _ h => yields_pure h

/-- An operation on the one key that may have an entry other than those of before. -/
theorem Did.at_key {op : Store.Operation} {n n' : Node} {c : ChannelKey → Option Entry}
    {present : Option Entry} (h : Did op n n')
    (before : n.store.entry? = Function.update c op.key present) :
    n'.store.entry? = Function.update c op.key (op.effect present) := by
  rw [h.entry?, before, Store.Operation.on, Function.update_self, Function.update_idem]

/-- The entry of a source once some routes are added. -/
def entryWith (setting : RouterSetting) (done : List RouteSetting) : Entry :=
  Mutation.applyAll (.empty ⟨setting.source⟩)
    (.setStrategy setting.strategy :: done.map fun x => .addRoute ⟨x.target⟩ x.keys)

theorem entryWith_concat (setting : RouterSetting) (done : List RouteSetting) (x : RouteSetting) :
    entryWith setting (done ++ [x]) =
      (Mutation.addRoute ⟨x.target⟩ x.keys).apply (entryWith setting done) := by
  simp only [entryWith, List.map_append, List.map_cons, List.map_nil]
  exact Entry.applyAll_concat ..

/-- **The router of a source**: its key gets the entry that the configuration says. -/
theorem yields_configure (id : Nat) (setting : RouterSetting) {n : Node}
    (absent : n.store.entry? ⟨setting.source⟩ = none) :
    Yields (configure id setting) n fun r n' =>
      r = { id := id, channel := ⟨setting.source⟩ } ∧ n'.transport = n.transport ∧
        n'.store.entry? =
          Function.update n.store.entry? ⟨setting.source⟩ (some setting.entry) := by
  have before : n.store.entry? = Function.update n.store.entry? ⟨setting.source⟩ none :=
    Store.entry?_kept absent
  refine yields_bind (yields_openRouter id setting.source n) ?_
  rintro _ n₁ ⟨rfl, opened⟩
  refine yields_bind (yields_mutate _ rfl _ (.setStrategy setting.strategy) n₁) fun _ n₂ set => ?_
  have started : n₂.store.entry? =
      Function.update n.store.entry? ⟨setting.source⟩ (some (entryWith setting [])) :=
    set.at_key (opened.at_key before)
  refine yields_bind (yields_forIn (fun done n' => n'.transport = n.transport ∧
    n'.store.entry? = Function.update n.store.entry? ⟨setting.source⟩ (some (entryWith setting done)))
    (fun done x rest n' _ inv => ?_) ⟨set.transport.trans opened.transport, started⟩)
    fun _ n₃ inv => yields_pure ⟨rfl, inv⟩
  refine (yields_mutate _ rfl _ (.addRoute ⟨x.target⟩ x.keys) n').imp fun _ n'' did => ?_
  refine ⟨did.transport.trans inv.1, ?_⟩
  rw [entryWith_concat]
  exact did.at_key inv.2

/-- The messages for a channel among some that are numbered. -/
def seedsOf (id : Nat → Uuid) (seeds : List (SeedMessage × Nat)) (key : ChannelKey) : List Message :=
  (seeds.filter fun x => ChannelKey.mk x.1.source = key).map fun x => seedMessage (id x.2) x.1

theorem seedsOf_concat (id : Nat → Uuid) (seeds : List (SeedMessage × Nat)) (x : SeedMessage × Nat)
    (key : ChannelKey) :
    seedsOf id (seeds ++ [x]) key =
      seedsOf id seeds key ++ Transport.only ⟨x.1.source⟩ [seedMessage (id x.2) x.1] key := by
  unfold seedsOf
  rw [List.filter_append, List.map_append, Transport.only, List.filter_singleton]
  by_cases own : key = ⟨x.1.source⟩
  · rw [if_pos own, decide_eq_true own.symm]
    rfl
  · rw [if_neg own, decide_eq_false (Ne.symm own)]
    rfl

/-- **How a transport stands during a set-up.** Nothing bounds it; `closed` are the channels that
are closed. -/
structure Stocked (t : Transport) (messages : ChannelKey → List Message)
    (closed : ChannelKey → Prop) : Prop where
  capacity : t.capacity = none
  messages : ∀ k, t.messages k = messages k
  closed : ∀ k, (t.queue k).closed = true ↔ closed k

/-- Putting a message on a channel that is open. -/
theorem Stocked.enqueue {t : Transport} {messages : ChannelKey → List Message}
    {closed : ChannelKey → Prop} (h : Stocked t messages closed) (key : ChannelKey)
    (opened : ¬ closed key) (m : Message) :
    (t.enqueue key m).1 = .ok () ∧
      Stocked (t.enqueue key m).2 (fun k => messages k ++ Transport.only key [m] k) closed := by
  have shut : (t.queue key).closed = false := Bool.eq_false_iff.mpr (mt (h.closed key).mp opened)
  have room : t.hasRoom (t.messages key).length = true := by
    unfold Transport.hasRoom
    rw [h.capacity]
  have accepted : t.enqueue key m = (.ok (),
      t.withQueue key { t.queue key with messages := t.messages key ++ [m] }) := by
    unfold Transport.enqueue
    rw [Transport.trySend_room shut room]
  rw [accepted]
  refine ⟨rfl, h.capacity, fun k => ?_, fun k => ?_⟩
  · by_cases hk : k = key
    · subst hk
      rw [Transport.messages, Transport.queue_withQueue_self, Transport.only, if_pos rfl, ← h.messages]
    · rw [Transport.messages, Transport.queue_withQueue_of_ne hk, Transport.only, if_neg hk,
        List.append_nil]
      exact h.messages k
  · by_cases hk : k = key
    · subst hk
      rw [Transport.queue_withQueue_self]
      exact h.closed k
    · rw [Transport.queue_withQueue_of_ne hk]
      exact h.closed k

/-- Closing a channel. -/
theorem Stocked.close {t : Transport} {messages : ChannelKey → List Message}
    {closed : ChannelKey → Prop} (h : Stocked t messages closed) (key : ChannelKey) :
    Stocked (t.close key) messages fun k => closed k ∨ k = key := by
  refine ⟨h.capacity, fun k => ?_, fun k => ?_⟩
  · by_cases hk : k = key
    · subst hk
      rw [Transport.messages, Transport.close, Transport.queue_withQueue_self]
      exact h.messages k
    · rw [Transport.messages, Transport.close, Transport.queue_withQueue_of_ne hk]
      exact h.messages k
  · by_cases hk : k = key
    · subst hk
      rw [Transport.close, Transport.queue_withQueue_self]
      exact ⟨fun _ => .inr rfl, fun _ => rfl⟩
    · rw [Transport.close, Transport.queue_withQueue_of_ne hk, h.closed, or_iff_left hk]

/-- A message to begin with is accepted. -/
theorem yields_seed (id : Uuid) (s : SeedMessage) {n : Node} {messages : ChannelKey → List Message}
    (stocked : Stocked n.transport messages fun _ => False) :
    Yields (seed id s) n fun _ n' => n'.store = n.store ∧
      Stocked n'.transport
        (fun k => messages k ++ Transport.only ⟨s.source⟩ [seedMessage id s] k) fun _ => False := by
  obtain ⟨accepted, after⟩ := stocked.enqueue ⟨s.source⟩ not_false (seedMessage id s)
  have called : Yields (liftM (Node.useTransport fun t => t.enqueue ⟨s.source⟩ (seedMessage id s))) n
      fun result n' => result = .ok () ∧ n'.store = n.store ∧ Stocked n'.transport
        (fun k => messages k ++ Transport.only ⟨s.source⟩ [seedMessage id s] k) fun _ => False :=
    yields_liftM ⟨accepted, rfl, after⟩
  refine yields_bind called ?_
  rintro _ n' ⟨rfl, kept⟩
  exact yields_pure kept

/-! ## The whole set-up -/

/-- **A service before its first step.** -/
structure Ready (c : Config) (id : Nat → Uuid) (s : Service) : Prop where
  runs : s.runs = c.routers.zipIdx.map fun x => runOf c { id := x.2, channel := ⟨x.1.source⟩ }
  targets : s.targets = targetsOf c
  stocked : Stocked s.node.transport (seedsOf id c.seeds.zipIdx) fun k => k.name ∈ c.sources
  /-- The entries are as the configuration says. -/
  entry : ∀ r ∈ c.routers, s.node.store.entry? ⟨r.source⟩ = some r.entry

/-- The routers of a configuration that have been set up so far. -/
structure Configured (done : List (RouterSetting × Nat)) (n : Node) : Prop where
  transport : n.transport = {}
  entry : ∀ x ∈ done, n.store.entry? ⟨x.1.source⟩ = some x.1.entry
  absent : ∀ k, k.name ∉ done.map (fun x => x.1.source) → n.store.entry? k = none

/-- Numbering the routers keeps their sources. -/
theorem map_source_zipIdx (c : Config) : c.routers.zipIdx.map (fun x => x.1.source) = c.sources := by
  calc c.routers.zipIdx.map (fun x => x.1.source)
      = (c.routers.zipIdx.map Prod.fst).map RouterSetting.source := List.map_map.symm
    _ = c.sources := congrArg _ (List.zipIdx_map_fst 0 c.routers)

theorem yields_routers {c : Config} (sound : c.Sound) :
    Yields (c.routers.zipIdx.mapM fun x => configure x.2 x.1) { store := .ofKind c.store }
      fun routers n => routers = c.routers.zipIdx.map (fun x =>
        ({ id := x.2, channel := ⟨x.1.source⟩ } : Router)) ∧ Configured c.routers.zipIdx n := by
  refine yields_mapM _ Configured (fun done x rest n all configured => ?_) ⟨rfl, nofun, fun k _ => ?_⟩
  · have fresh : x.1.source ∉ done.map fun x => x.1.source := by
      have distinct := sound.distinct
      rw [← map_source_zipIdx, all, List.map_append, List.map_cons] at distinct
      exact fun again => (List.nodup_append.mp distinct).2.2 _ again _ List.mem_cons_self rfl
    refine (yields_configure x.2 x.1 (configured.absent _ fresh)).imp ?_
    rintro _ n' ⟨rfl, transport, entries⟩
    refine ⟨rfl, transport.trans configured.transport, fun y hy => ?_, fun k hk => ?_⟩
    · rw [entries]
      rcases List.mem_append.mp hy with hy | hy
      · have other : (⟨y.1.source⟩ : ChannelKey) ≠ ⟨x.1.source⟩ := fun same =>
          fresh (List.mem_map.mpr ⟨y, hy, congrArg ChannelKey.name same⟩)
        rw [Function.update_of_ne other]
        exact configured.entry y hy
      · rw [List.mem_singleton.mp hy, Function.update_self]
    · rw [List.map_append, List.mem_append, not_or] at hk
      have other : k ≠ ⟨x.1.source⟩ := fun same => hk.2 (by rw [same]; exact List.mem_singleton_self _)
      rw [entries, Function.update_of_ne other]
      exact configured.absent k hk.1
  · rw [Store.entry?_ofKind]

theorem yields_setup {c : Config} (sound : c.Sound) (id : Nat → Uuid) :
    Yields (setup c id) { store := .ofKind c.store } fun routers n =>
      Ready c id { node := n, runs := routers.map (runOf c), targets := targetsOf c } := by
  refine yields_bind (yields_routers sound) ?_
  rintro _ n ⟨rfl, configured⟩
  have empty : Stocked n.transport (seedsOf id []) fun _ => False := by
    rw [configured.transport]
    exact ⟨rfl, fun _ => rfl, fun _ => ⟨nofun, False.elim⟩⟩
  refine yields_bind (yields_forM (fun done n' => n'.store = n.store ∧
    Stocked n'.transport (seedsOf id done) fun _ => False) (fun done x rest n' _ inv => ?_)
    ⟨rfl, empty⟩) fun _ n₁ seeded => ?_
  · refine (yields_seed (id x.2) x.1 inv.2).imp fun _ n'' after => ⟨after.1.trans inv.1, ?_⟩
    rw [funext (seedsOf_concat id done x)]
    exact after.2
  refine yields_bind (yields_forIn (fun done n' => n'.store = n.store ∧
    Stocked n'.transport (seedsOf id c.seeds.zipIdx) fun k => k ∈ done.map Router.channel)
    (fun done r rest n' _ inv => yields_liftM ⟨inv.1, ?_⟩) ⟨seeded.1, ?_⟩) fun _ n₂ closed => ?_
  · have shut := inv.2.close r.channel
    simp only [List.map_append, List.mem_append, List.map_cons, List.map_nil, List.mem_singleton]
    exact shut
  · exact ⟨seeded.2.capacity, seeded.2.messages, fun k => (seeded.2.closed k).trans ⟨False.elim, nofun⟩⟩
  refine yields_pure ⟨List.map_map, rfl, ?_, fun r hr => ?_⟩
  · have channels (k : ChannelKey) :
        k ∈ (c.routers.zipIdx.map fun x =>
          ({ id := x.2, channel := ⟨x.1.source⟩ } : Router)).map Router.channel ↔
        k.name ∈ c.sources := by
      rw [← map_source_zipIdx, List.map_map, List.mem_map, List.mem_map]
      refine exists_congr fun x => and_congr_right fun _ => ?_
      exact ⟨congrArg ChannelKey.name, congrArg ChannelKey.mk⟩
    exact ⟨closed.2.capacity, closed.2.messages, fun k => (closed.2.closed k).trans (channels k)⟩
  · rw [← List.zipIdx_map_fst 0 c.routers] at hr
    obtain ⟨x, hx, rfl⟩ := List.mem_map.mp hr
    show n₂.store.entry? ⟨x.1.source⟩ = some x.1.entry
    rw [closed.1]
    exact configured.entry x hx

/-- **A sound configuration is set up without fail.** -/
theorem start_ready {c : Config} (sound : c.Sound) (id : Nat → Uuid) :
    ∃ s, start c id = .ok s ∧ Ready c id s := by
  obtain ⟨routers, n, ran, ready⟩ := yields_setup sound id
  refine ⟨_, ?_, ready⟩
  unfold start
  rw [ran]

end ChannelRouting.Service
