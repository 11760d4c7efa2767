import ChannelRouting.Json
import ChannelRouting.WaitPolicy

/-!
# Wire form of wait policies

`"indefinite"`, `"immediate"`, or an object that gives a timeout in
milliseconds. Writing keeps the whole milliseconds, and of these the lowest 64
bits; reading turns a timeout of zero into the policy that does not block. So
exactly the timeouts of a whole, positive, 64-bit number of milliseconds are read
back as they were.
-/

namespace ChannelRouting.WaitPolicy

def variants : List String := ["indefinite", "immediate", "timeout"]

def toJson : WaitPolicy → Json
  | indefinite => .str "indefinite"
  | immediate => .str "immediate"
  | timeout d => .obj [("timeout", .obj [("timeout_ms", .ofNat d.toMillis64.toNat)])]

/-- The one field of a timeout. -/
def timeoutFields {V : Type} (readMillis : V → Decoded UInt64) :
    List (Record.Field V (Option UInt64)) :=
  [{ name := "timeout_ms", absence := .refused, isRead := Option.isSome,
     read := fun v _ => some <$> readMillis v }]

/-- The policy of a timeout that was read. -/
def ofTimeout (ms : Option UInt64) : WaitPolicy := ofDuration (.ofMillis (ms.getD 0))

/-- An unsigned number of 64 bits. -/
def millisOfJson (j : Json) : Decoded UInt64 := UInt64.ofNat <$> j.asNatBelow UInt64.size

def ofJson (j : Json) : Decoded WaitPolicy := do
  match ← j.asVariant variants with
  | ("indefinite", content) => Json.unitContent content; return indefinite
  | ("immediate", content) => Json.unitContent content; return immediate
  | (_, content) => ofTimeout <$> Json.recordContent (timeoutFields millisOfJson) none content

end ChannelRouting.WaitPolicy
