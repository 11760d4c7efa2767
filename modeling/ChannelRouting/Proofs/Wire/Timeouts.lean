import ChannelRouting.Wire.WaitPolicy

/-!
# Timeouts on the wire

A timeout is written as a number of milliseconds. A fraction of a millisecond is cut off, and of
the whole milliseconds the lowest 64 bits are kept; of what is read, zero is no timeout but the
policy that does not block. `WaitPolicy.onWire` is the policy that arrives (`ofJson_toJson`).

All of that is arithmetic on the nanoseconds of a duration, which determine it
(`Duration.toNanos_inj`): the duration that arrives has the whole milliseconds modulo 64 bits
(`Duration.toNanos_shortened`), and so it is never longer. What survives are the durations on
which neither step does anything, and a duration that arrived is one of these
(`wait_policies_settle`).
-/

namespace ChannelRouting

namespace Duration

/-- The nanoseconds of a duration determine it. -/
theorem toNanos_inj {d d' : Duration} : d.toNanos = d'.toNanos ↔ d = d' := by
  constructor
  · intro same
    obtain ⟨secs, nanos, small⟩ := d
    obtain ⟨secs', nanos', small'⟩ := d'
    simp only [toNanos] at same
    have whole : secs.toNat = secs'.toNat := by omega
    have rest : nanos = nanos' := by omega
    cases UInt64.toNat_inj.mp whole
    cases rest
    rfl
  · exact congrArg toNanos

theorem isZero_iff {d : Duration} : d.isZero = true ↔ d.toNanos = 0 := by
  have zero : d.secs = 0 ↔ d.secs.toNat = 0 := UInt64.toNat_inj.symm
  simp only [isZero, Bool.and_eq_true, beq_iff_eq, zero, toNanos]
  omega

theorem toNanos_ofMillis (ms : UInt64) : (ofMillis ms).toNanos = ms.toNat * 1000000 := by
  have secs : (ofMillis ms).secs.toNat = ms.toNat / 1000 := UInt64.toNat_div ms 1000
  have nanos : (ofMillis ms).nanos = ms.toNat % 1000 * 1000000 := rfl
  rw [toNanos, secs, nanos]
  omega

theorem toMillis_eq (d : Duration) : d.toMillis = d.toNanos / 1000000 := by
  rw [toMillis, toNanos]
  omega

/-- The duration that arrives if its milliseconds are sent. -/
def shortened (d : Duration) : Duration := ofMillis d.toMillis64

theorem toNanos_shortened (d : Duration) :
    d.shortened.toNanos = d.toNanos / 1000000 % UInt64.size * 1000000 := by
  have sent : d.toMillis64.toNat = d.toMillis % UInt64.size := UInt64.toNat_ofNat'
  rw [shortened, toNanos_ofMillis, sent, toMillis_eq]

/-- A duration is no longer when it arrives. -/
theorem toNanos_shortened_le (d : Duration) : d.shortened.toNanos ≤ d.toNanos := by
  rw [toNanos_shortened]
  have fewer := Nat.mod_le (d.toNanos / 1000000) UInt64.size
  omega

/-- Exactly the durations of whole milliseconds that 64 bits hold arrive as they were. -/
theorem shortened_eq_iff {d : Duration} :
    d.shortened = d ↔ ∃ n, n < UInt64.size ∧ d.toNanos = n * 1000000 := by
  rw [← toNanos_inj, toNanos_shortened]
  constructor
  · intro same
    exact ⟨_, Nat.mod_lt _ (by decide), same.symm⟩
  · rintro ⟨n, small, whole⟩
    rw [whole, Nat.mul_div_cancel n (by decide), Nat.mod_eq_of_lt small]

theorem shortened_shortened (d : Duration) : d.shortened.shortened = d.shortened :=
  shortened_eq_iff.mpr ⟨_, Nat.mod_lt _ (by decide), d.toNanos_shortened⟩

end Duration

namespace WaitPolicy

open Json

/-- **The policy that arrives** when the wire form of a policy is read. -/
def onWire : WaitPolicy → WaitPolicy
  | indefinite => indefinite
  | immediate => immediate
  | timeout d => ofDuration d.shortened

theorem ofJson_timeout (content : Json) : ofJson (.obj [("timeout", content)]) =
    ofTimeout <$> recordContent (timeoutFields millisOfJson) none (some content) := rfl

theorem asNatBelow_ofNat {n bound : Nat} (small : n < bound) :
    (Json.ofNat n).asNatBelow bound = .ok n :=
  if_pos ⟨Int.natCast_nonneg n, Int.ofNat_lt.mpr small⟩

theorem millisOfJson_ofNat (ms : UInt64) : millisOfJson (.ofNat ms.toNat) = .ok ms := by
  rw [millisOfJson, asNatBelow_ofNat ms.toNat_lt_size]
  exact congrArg Except.ok UInt64.ofNat_toNat

theorem timeoutFields_read {readMillis : Json → Decoded UInt64} {number : Json} {ms : UInt64}
    (millis : readMillis number = .ok ms) :
    recordContent (timeoutFields readMillis) none (some (.obj [("timeout_ms", number)])) =
      .ok (some ms) := by
  simp [recordContent, Record.ofMembers, Record.visit, Record.complete, timeoutFields, millis,
    Functor.map, Except.map, bind, Except.bind, pure, Except.pure]

theorem ofJson_toJson (p : WaitPolicy) : ofJson p.toJson = .ok p.onWire := by
  cases p with
  | indefinite => rfl
  | immediate => rfl
  | timeout d =>
    have content := timeoutFields_read (millisOfJson_ofNat d.toMillis64)
    rw [toJson, ofJson_timeout, content]
    rfl

/-! ## What arrives -/

theorem onWire_timeout (d : Duration) :
    (timeout d).onWire = if d.shortened.toNanos = 0 then immediate else timeout d.shortened := by
  simp only [onWire, ofDuration, Duration.isZero_iff]

/-- **A policy that survives the wire**: it is no timeout, or one of a whole number of milliseconds,
at least one of them and no more than 64 bits hold. -/
inductive WholeMillis : WaitPolicy → Prop
  | indefinite : WholeMillis .indefinite
  | immediate : WholeMillis .immediate
  | timeout {d : Duration} (n : Nat) (some_wait : 1 ≤ n) (small : n < UInt64.size)
      (whole : d.toNanos = n * 1000000) : WholeMillis (.timeout d)

theorem onWire_eq_iff (p : WaitPolicy) : p.onWire = p ↔ p.WholeMillis := by
  cases p with
  | indefinite => exact iff_of_true rfl .indefinite
  | immediate => exact iff_of_true rfl .immediate
  | timeout d =>
    rw [onWire_timeout]
    constructor
    · intro same
      split at same
      · cases same
      · next some_wait =>
        have kept : d.shortened = d := timeout.inj same
        obtain ⟨n, small, whole⟩ := Duration.shortened_eq_iff.mp kept
        rw [kept] at some_wait
        exact .timeout n (by omega) small whole
    · rintro (_ | _ | ⟨n, some_wait, small, whole⟩)
      rw [Duration.shortened_eq_iff.mpr ⟨n, small, whole⟩, if_neg (by omega)]

/-- What has arrived survives the wire. -/
theorem onWire_onWire (p : WaitPolicy) : p.onWire.onWire = p.onWire := by
  cases p with
  | indefinite => rfl
  | immediate => rfl
  | timeout d =>
    rw [onWire_timeout]
    split
    · rfl
    · next some_wait => rw [onWire_timeout, d.shortened_shortened, if_neg some_wait]

/-- **How a policy stands to the one that arrives.** -/
structure Arrives (p q : WaitPolicy) : Prop where
  kept : q = p ↔ p.WholeMillis
  /-- No wait becomes endless and no endless wait is cut short. -/
  endless : q = .indefinite ↔ p = .indefinite
  no_longer : ∀ d, p.limit = some d → ∃ d', q.limit = some d' ∧ d'.toNanos ≤ d.toNanos
  /-- A second journey changes nothing more. -/
  again : ofJson q.toJson = .ok q

/-- **Exactly the waits of whole milliseconds survive the wire**, and those that do not become
shorter. The form of every policy can be read. -/
theorem wait_policies_settle (p : WaitPolicy) : ∃ q, ofJson p.toJson = .ok q ∧ p.Arrives q := by
  refine ⟨p.onWire, ofJson_toJson p, onWire_eq_iff p, ?_, ?_, ?_⟩
  · cases p with
    | indefinite | immediate => exact Iff.rfl
    | timeout d =>
      rw [onWire_timeout]
      split <;> exact iff_of_false nofun nofun
  · intro limit limited
    cases p with
    | indefinite => cases limited
    | immediate => exact ⟨limit, limited, Nat.le_refl _⟩
    | timeout d =>
      cases limited
      rw [onWire_timeout]
      split
      · exact ⟨.zero, rfl, Nat.zero_le _⟩
      · exact ⟨_, rfl, limit.toNanos_shortened_le⟩
  · rw [ofJson_toJson, onWire_onWire]

/-- A timeout of one nanosecond less than two milliseconds, and the first that 64 bits do not hold:
one arrives shorter, and the other as no wait at all. -/
example : (timeout { secs := 0, nanos := 1999999 }).onWire = timeout (.ofMillis 1) ∧
    (timeout { secs := 18446744073709551, nanos := 616000000 }).onWire = immediate := by
  decide

end WaitPolicy

end ChannelRouting
