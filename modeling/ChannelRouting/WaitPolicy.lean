/-!
# Wait policies

How long a receive or a send may block: for ever, not at all, or up to a
duration. `WaitPolicy.ofDuration` turns a zero duration into the policy that does
not block, but a `timeout` of zero can also be built directly, and then stays one:
its refused send reports a timeout and not a full channel.
-/

namespace ChannelRouting

/-- A length of time in whole seconds and nanoseconds below one second. -/
structure Duration where
  secs : UInt64
  nanos : Nat
  nanos_lt : nanos < 1000000000 := by decide
deriving DecidableEq

namespace Duration

def zero : Duration := { secs := 0, nanos := 0 }

instance : Inhabited Duration := ⟨zero⟩

/-- A whole number of milliseconds. -/
def ofMillis (ms : UInt64) : Duration where
  secs := ms / 1000
  nanos := ms.toNat % 1000 * 1000000
  nanos_lt := by
    have := Nat.mod_lt ms.toNat (by decide : 0 < 1000)
    omega

/-- The whole length in nanoseconds. -/
def toNanos (d : Duration) : Nat := d.secs.toNat * 1000000000 + d.nanos

theorem toNanos_zero : zero.toNanos = 0 := by simp [toNanos, zero]

/-- The whole milliseconds of a length of time, a fraction cut off. -/
def toMillis (d : Duration) : Nat := d.secs.toNat * 1000 + d.nanos / 1000000

/-- The milliseconds as a 64-bit number: higher bits are lost. -/
def toMillis64 (d : Duration) : UInt64 := UInt64.ofNat d.toMillis

def isZero (d : Duration) : Bool := d.secs == 0 && d.nanos == 0

end Duration

/-- How long a receive or a send may block. -/
inductive WaitPolicy where
  | indefinite
  | immediate
  | timeout (duration : Duration)
deriving DecidableEq, Inhabited

namespace WaitPolicy

/-- The policy that waits up to a duration; a zero duration does not block. -/
def ofDuration (d : Duration) : WaitPolicy := if d.isZero then .immediate else .timeout d

/-- The longest wait, if there is one. -/
def limit : WaitPolicy → Option Duration
  | indefinite => none
  | immediate => some .zero
  | timeout d => some d

end WaitPolicy

end ChannelRouting
