import ChannelRouting.Scenario.Schedule

/-!
# The store and the routers of a scenario

The steps that read and change entries, through the store itself or through
routers. Faults strike before the store is asked. Before each swap of an
optimistic store the next queued interference takes place, and after a refused one
the background tasks that can go on do so.
-/

namespace ChannelRouting.Scenario

/-- The versioned table, in an optimistic store. -/
def table? (w : World) : Option (Nat × VersionedTable) :=
  match w.store with
  | .memory _ => none
  | .optimistic limit t => some (limit, t)

/-- What another node does to a key of a versioned table. -/
def Interference.apply (key : ChannelKey) (t : VersionedTable) : Interference → VersionedTable
  | .nothing => t
  | .unavailable _ => t
  | .deletion => (t.delete key).2
  | .recreation => ((t.delete key).2.insertIfAbsent (.empty key)).2
  | .mutation m =>
    match t.load key with
    | some v => (t.swap key v.version (m.apply v.entry)).2
    | none => t

/-- Counts a swap and lets the next interference take place. -/
def interfereOnce (limit : Nat) (t : VersionedTable) (key : ChannelKey) :
    Step (Option StoreError × VersionedTable) := modifyGet fun w =>
  let w := { w with swaps := w.swaps + 1 }
  match w.interference with
  | [] => ((none, t), w)
  | i :: rest =>
    let t' := i.apply key t
    let refusal := match i with
      | .unavailable text => some (.unavailable text)
      | _ => none
    ((refusal, t'), { w with interference := rest, store := .optimistic limit t' })

/-- A versioned table as an update of a scenario sees it. -/
def updateAccess : Update.Access World where
  load key := do
    return .ok ((table? (← get)).bind fun (_, t) => t.load key)
  swap key version e := do
    match table? (← get) with
    | none => return .ok false
    | some (limit, t) =>
      let (refusal, t) ← interfereOnce limit t key
      match refusal with
      | some e => return .error e
      | none =>
        let (done, t) := t.swap key version e
        modify fun w => { w with store := .optimistic limit t }
        return .ok done
  emit := emit
  pause := runReady patience

/-- Carries out an operation of the store and tells what it reports. -/
def useStore {α : Type} (events : Store → List Event) (use : Store → α × Store) : Step α := do
  for e in events (← get).store do emit e
  modifyGet fun w =>
    let (a, s) := use w.store
    (a, { w with store := s })

/-- Carries out an operation of the store unless a fault strikes. -/
def unlessStruck {α : Type} (call : StoreCall) (op : Step (Except StoreError α)) :
    Step (Except StoreError α) := do
  match ← strikeStore call with
  | some e => return .error e
  | none => op

/-- The store as the routers of a scenario see it. -/
def storeAccess : Store.Access World where
  get := readEntry
  putIfAbsent e :=
    unlessStruck .put (useStore (fun s => s.putEvents e) (fun s => s.putIfAbsent e))
  execute key m := unlessStruck .execute do
    match table? (← get) with
    | some (limit, _) => Update.run updateAccess { key := key, mutation := m, limit := limit }
    | none => useStore (fun s => s.executeEvents key) (fun s => s.execute key m)
  remove key := unlessStruck .remove (useStore (fun _ => []) (fun s => s.remove key))
  emit := emit

/-- The number of entries, which only a store in memory tells. -/
def storeSize : Step (Except Refusal Nat) := do
  match (← get).store with
  | .memory t => return .ok t.size
  | .optimistic .. => return .error .noLength

/-- Queues a fault of the store. -/
def addStoreFault (f : StoreFault) : Step Unit := modify fun w =>
  { w with storeFaults := w.storeFaults ++ [f] }

/-- Queues what other nodes do before swaps. -/
def addInterference (items : List Interference) : Step (Except Refusal Unit) := do
  let w ← get
  if (table? w).isNone then return .error .notOptimistic
  set { w with interference := w.interference ++ items }
  return .ok ()

/-- The number of swaps that were tried. -/
def swapCount : Step (Except Refusal Nat) := do
  let w ← get
  return if (table? w).isNone then .error .notOptimistic else .ok w.swaps

/-! ## Contexts and routers -/

/-- The registry of a context. -/
def registryOf (w : World) (context : String) : Option Nat := w.contexts.get? context

/-- A registry by its number. -/
def registry (w : World) (g : Nat) : Registry := (w.registries.get? g).getD {}

/-- Binds a context that shares the registry of another, or has one of its own. -/
def bindContext (name : String) (cloneOf : Option String) : Step (Except Refusal Unit) := do
  let w ← get
  match cloneOf with
  | some other =>
    match registryOf w other with
    | none => return .error .noContext
    | some g =>
      set { w with contexts := w.contexts.insert name g }
      return .ok ()
  | none =>
    let g ← freshId
    modify fun w => { w with contexts := w.contexts.insert name g,
                             registries := w.registries.insert g {} }
    return .ok ()

/-- The number of open routers of a context, and their channels. -/
def liveRouters (context : String) : Step (Except Refusal (Nat × List ChannelKey)) := do
  let w ← get
  match registryOf w context with
  | none => return .error .noContext
  | some g => return .ok ((registry w g).count, (registry w g).keys.toList)

/-- Takes a router out of its registry, as when its handle is gone. -/
def dropRouter (r : Router) (g : Nat) : Step Unit := modify fun w =>
  { w with registries := w.registries.insert g (Router.drop (registry w g) r) }

/-- Opens a router and binds it; the one that had the name is dropped after that. -/
def openRouter (name : String) (context : String) (key : ChannelKey) :
    Step (Except Refusal (Except RouterError Router)) := do
  match registryOf (← get) context with
  | none => return .error .noContext
  | some g =>
    let id ← freshId
    match ← Router.open_ storeAccess (registry (← get) g) id key with
    | .error e => return .ok (.error e)
    | .ok (r, reg) =>
      modify fun w => { w with registries := w.registries.insert g reg }
      if let some (old, oldG) := (← get).routers.get? name then dropRouter old oldG
      modify fun w => { w with routers := w.routers.insert name (r, g) }
      return .ok (.ok r)

/-- A step on a router that is bound to a name. -/
def withRouter {α : Type} (name : String) (use : Router → Step α) : Step (Except Refusal α) := do
  match (← get).routers.get? name with
  | none => return .error .noRouter
  | some (r, _) => .ok <$> use r

/-- Closes a router. -/
def closeRouter (name : String) : Step (Except Refusal Unit) := do
  let w ← get
  match w.routers.get? name with
  | none => return .error .noRouter
  | some (r, g) =>
    let (r, reg) ← r.close storeAccess (registry w g)
    modify fun w => { w with routers := w.routers.insert name (r, g),
                             registries := w.registries.insert g reg }
    return .ok ()

/-- Drops the router of a name; answers whether there was one. -/
def unbindRouter (name : String) : Step Bool := do
  let w ← get
  match w.routers.get? name with
  | none => return false
  | some (r, g) =>
    set { w with routers := w.routers.erase name }
    dropRouter r g
    return true

/-- A router and the number of bound routers with its identity. -/
def routerInfo (name : String) : Step (Except Refusal (Router × Nat)) :=
  withRouter name fun r => do
    return (r, (((← get).routers.values.filter fun x => x.1.id = r.id).length))

end ChannelRouting.Scenario
