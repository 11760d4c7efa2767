import ChannelRouting.Mutation

/-!
# Tables of entries

The table that one process keeps: at most one entry for each channel key. Putting
never replaces an entry, and a mutation of an absent entry does nothing.
-/

namespace ChannelRouting

/-- The entries of one process, by channel key. -/
abbrev Table := SortedMap ChannelKey Entry

namespace Table

/-- Puts an entry under its own key unless one is there; answers with the entry
that was there. -/
def putIfAbsent (t : Table) (e : Entry) : Option Entry × Table :=
  match t.get? e.channel with
  | some present => (some present, t)
  | none => (none, t.insert e.channel e)

/-- Mutates the entry of a key in place; answers with the new entry. -/
def execute (t : Table) (key : ChannelKey) (m : Mutation) : Option Entry × Table :=
  match t.get? key with
  | some e => (some (m.apply e), t.insert key (m.apply e))
  | none => (none, t)

/-- Takes the entry of a key out of the table. -/
def remove (t : Table) (key : ChannelKey) : Option Entry × Table :=
  (t.get? key, t.erase key)

end Table

end ChannelRouting
