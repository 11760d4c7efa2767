import ChannelRouting.Store.Table
import ChannelRouting.Store.Update

/-!
# Stores of entries

Two stores keep routing-table entries: a table whose mutations are indivisible,
and a versioned table whose mutations are optimistic updates. Used by one caller
after another they answer alike. `Store.putEvents` and `Store.executeEvents` say
what the first kind reports of an operation.

Routers and loops see a store through `Store.Access`, so they work over any state
that answers the four operations, also one that fails.
-/

namespace ChannelRouting

/-- The kind of a store. -/
inductive StoreKind where
  | inMemory
  | optimistic (maxAttempts : Nat)
deriving DecidableEq, Inhabited

/-- A store with its entries. -/
inductive Store where
  | memory (table : Table)
  | optimistic (limit : Nat) (table : VersionedTable)

namespace Store

/-- The attempts an optimistic store allows unless told otherwise. -/
def defaultAttempts : Nat := 64

/-- A store without entries. -/
def ofKind : StoreKind → Store
  | .inMemory => memory .empty
  | .optimistic maxAttempts => optimistic maxAttempts .empty

instance : Inhabited Store := ⟨ofKind .inMemory⟩

/-- The entry of a key. -/
def entry? : Store → ChannelKey → Option Entry
  | memory t, key => t.get? key
  | optimistic _ t, key => (t.load key).map Versioned.entry

/-- Reads the entry of a key. -/
def get (s : Store) (key : ChannelKey) : Except StoreError (Option Entry) × Store :=
  (.ok (s.entry? key), s)

/-- Puts an entry under its own key unless one is there. -/
def putIfAbsent (s : Store) (e : Entry) : Except StoreError (Option Entry) × Store :=
  match s with
  | memory t =>
    let (present, t') := t.putIfAbsent e
    (.ok present, memory t')
  | optimistic limit t =>
    let (present, t') := t.insertIfAbsent e
    (.ok present, optimistic limit t')

/-- Mutates the entry of a key. -/
def execute (s : Store) (key : ChannelKey) (m : Mutation) :
    Except StoreError (Option Entry) × Store :=
  match s with
  | memory t =>
    let (changed, t') := t.execute key m
    (.ok changed, memory t')
  | optimistic limit t =>
    let (result, t') := Update.run .alone { key := key, mutation := m, limit := limit } t
    (result, optimistic limit t')

/-- Takes the entry of a key out of the store. -/
def remove (s : Store) (key : ChannelKey) : Except StoreError (Option Entry) × Store :=
  match s with
  | memory t =>
    let (gone, t') := t.remove key
    (.ok gone, memory t')
  | optimistic limit t =>
    let (gone, t') := t.delete key
    (.ok gone, optimistic limit t')

/-- What putting an entry reports. -/
def putEvents (s : Store) (e : Entry) : List Event :=
  match s with
  | memory t => if t.contains e.channel then [] else [.entryCreated e.channel]
  | optimistic .. => []

/-- What mutating the entry of a key reports, attempts at swaps apart. -/
def executeEvents (s : Store) (key : ChannelKey) : List Event :=
  match s with
  | memory t => if t.contains key then [] else [.entryAbsent key]
  | optimistic .. => []

/-- A store as routers and loops see it. -/
structure Access (σ : Type) where
  get : ChannelKey → StateM σ (Except StoreError (Option Entry))
  putIfAbsent : Entry → StateM σ (Except StoreError (Option Entry))
  execute : ChannelKey → Mutation → StateM σ (Except StoreError (Option Entry))
  remove : ChannelKey → StateM σ (Except StoreError (Option Entry))
  emit : Event → StateM σ Unit

/-- A store that nobody else uses. -/
def Access.alone : Access Store where
  get key s := s.get key
  putIfAbsent e s := s.putIfAbsent e
  execute key m s := s.execute key m
  remove key s := s.remove key
  emit _ := pure ()

end Store

end ChannelRouting
