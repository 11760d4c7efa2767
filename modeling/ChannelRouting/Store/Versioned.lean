import ChannelRouting.Mutation

/-!
# Versioned tables

A table that gives every entry a version and replaces an entry only for a caller
that names the version it has read. An entry starts at version 0, also when its
key had an entry before, and every swap adds one.
-/

namespace ChannelRouting

/-- An entry with its version. -/
structure Versioned where
  version : Nat
  entry : Entry
deriving DecidableEq

/-- The versioned entries, by channel key. -/
abbrev VersionedTable := SortedMap ChannelKey Versioned

namespace VersionedTable

def load (t : VersionedTable) (key : ChannelKey) : Option Versioned := t.get? key

/-- Puts an entry under its own key unless one is there; answers with the entry
that was there. -/
def insertIfAbsent (t : VersionedTable) (e : Entry) : Option Entry × VersionedTable :=
  match t.get? e.channel with
  | some present => (some present.entry, t)
  | none => (none, t.insert e.channel { version := 0, entry := e })

/-- Replaces the entry of a key if it is there under the expected version; answers
whether it did. -/
def swap (t : VersionedTable) (key : ChannelKey) (expected : Nat) (e : Entry) :
    Bool × VersionedTable :=
  match t.get? key with
  | some present =>
    if present.version = expected then
      (true, t.insert key { version := present.version + 1, entry := e })
    else (false, t)
  | none => (false, t)

/-- Takes the entry of a key out of the table. -/
def delete (t : VersionedTable) (key : ChannelKey) : Option Entry × VersionedTable :=
  ((t.get? key).map Versioned.entry, t.erase key)

end VersionedTable

end ChannelRouting
