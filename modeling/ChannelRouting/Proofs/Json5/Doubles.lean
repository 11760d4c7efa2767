import ChannelRouting.Json5.Value
import Mathlib.Data.Nat.Digits.Defs

/-!
# Numbers that are read again

A number of 64 bits is read from JSON5 by way of a double, and most numbers of 64 bits are none: so
the number that is read need not be the one that was written. But it is one that a double holds
(`isDouble_of_wholeOfDecimal`), or the greatest of all, and these are read as they are
(`wholeOfDouble_of_isDouble`). So what was read of any number, written out in full and read again,
is the same (`toUInt64?_ofInt_of_toUInt64?`).

The greatest number is no double. It is read as the next one, which is beyond the range, and so goes
back to the greatest.
-/

namespace ChannelRouting.Json5.Number

/-- **A whole number that a double holds**: up to 53 binary digits, and zeros behind them. -/
def IsDouble (w : Nat) : Prop := ∃ q k, q ≤ 2 ^ 53 ∧ w = q * 2 ^ k

theorem isDouble_of_le {w : Nat} (small : w ≤ 2 ^ 53) : IsDouble w :=
  ⟨w, 0, small, (Nat.mul_one w).symm⟩

/-! ## Rounding -/

theorem roundQuotient_le {num den n : Nat} (below : num < den * n) : roundQuotient num den ≤ n := by
  have quotient : num / den < n := Nat.div_lt_of_lt_mul below
  simp only [roundQuotient]
  split
  · omega
  · split
    · omega
    · split <;> omega

theorem roundQuotient_mul {den : Nat} (positive : 0 < den) (n : Nat) :
    roundQuotient (n * den) den = n := by
  simp only [roundQuotient, Nat.mul_div_cancel n positive, Nat.mul_mod_left, Nat.mul_zero,
    if_pos positive]

theorem lt_mul_of_log2 (num : Nat) {den : Nat} (positive : 0 < den) :
    num < den * 2 ^ (Nat.log2 (num / den) + 1) := by
  have quotient : num / den < 2 ^ (Nat.log2 (num / den) + 1) := Nat.lt_log2_self
  exact (Nat.div_lt_iff_lt_mul positive).mp quotient |>.trans_eq (Nat.mul_comm _ _)

/-- A quotient becomes a whole number that a double holds. -/
theorem isDouble_wholeOfDouble {num den : Nat} (positive : 0 < den) :
    IsDouble (wholeOfDouble num den) := by
  have below := lt_mul_of_log2 num positive
  have shift_le (n s : Nat) : n >>> s ≤ n := Nat.shiftRight_le n s
  unfold wholeOfDouble
  simp only [Nat.shiftLeft_eq]
  generalize Nat.log2 (num / den) = top at below ⊢
  split
  · next small =>
    refine isDouble_of_le ((shift_le _ _).trans (roundQuotient_le ?_))
    exact Nat.mul_lt_mul_of_pos_right small (Nat.two_pow_pos 53)
  · split
    · next digits =>
      refine isDouble_of_le ((shift_le _ _).trans (roundQuotient_le ?_))
      calc num * 2 ^ (52 - top) < den * 2 ^ (top + 1) * 2 ^ (52 - top) :=
            Nat.mul_lt_mul_of_pos_right below (Nat.two_pow_pos _)
        _ = den * 2 ^ 53 := by rw [Nat.mul_assoc, ← Nat.pow_add]; congr 2; omega
    · next digits =>
      refine ⟨_, top - 52, roundQuotient_le ?_, rfl⟩
      calc num < den * 2 ^ (top + 1) := below
        _ = den * 2 ^ (top - 52) * 2 ^ 53 := by rw [Nat.mul_assoc, ← Nat.pow_add]; congr 2; omega

/-- The zeros behind the first 53 digits of a number that a double holds. -/
theorem pow_dvd_of_isDouble {w top : Nat} (h : IsDouble w) (reached : 2 ^ top ≤ w)
    (long : 52 < top) : 2 ^ (top - 52) ∣ w := by
  obtain ⟨q, k, digits, rfl⟩ := h
  by_cases zeros : top - 52 ≤ k
  · exact (Nat.pow_dvd_pow 2 zeros).trans (Nat.dvd_mul_left _ q)
  · -- With fewer zeros the number is the least of its length, a power of two.
    have bound : q * 2 ^ k ≤ 2 ^ top := by
      calc q * 2 ^ k ≤ 2 ^ 53 * 2 ^ (top - 53) :=
            Nat.mul_le_mul digits (Nat.pow_le_pow_right (by decide) (by omega))
        _ = 2 ^ top := by rw [← Nat.pow_add]; congr 1; omega
    rw [Nat.le_antisymm bound reached]
    exact Nat.pow_dvd_pow 2 (Nat.sub_le top 52)

/-- **A number that a double holds is read as it is.** -/
theorem wholeOfDouble_of_isDouble {w : Nat} (h : IsDouble w) : wholeOfDouble w 1 = w := by
  have plain (n : Nat) : roundQuotient n 1 = n := by
    have divided := roundQuotient_mul Nat.one_pos n
    rwa [Nat.mul_one] at divided
  unfold wholeOfDouble
  simp only [Nat.div_one, plain, Nat.shiftLeft_shiftRight]
  split
  · rfl
  · next some_digit =>
    split
    · rfl
    · next long =>
      rw [Nat.shiftLeft_eq, Nat.shiftLeft_eq, Nat.one_mul]
      have reached : 2 ^ Nat.log2 w ≤ w := Nat.log2_self_le (by omega)
      obtain ⟨q, split⟩ := pow_dvd_of_isDouble h reached (by omega)
      rw [Nat.mul_comm] at split
      generalize Nat.log2 w - 52 = zeros at split
      rw [split, roundQuotient_mul (Nat.two_pow_pos zeros)]

/-! ## Reading -/

theorem isDouble_of_wholeOfDecimal {digits w : Nat} {e : Int}
    (read : wholeOfDecimal digits e = some w) : IsDouble w := by
  unfold wholeOfDecimal at read
  simp only at read
  split at read
  · cases read
    exact isDouble_of_le (Nat.zero_le _)
  · split at read
    · cases read
    · rw [Option.ite_none_left_eq_some, Option.some.injEq] at read
      rw [← read.2]
      refine isDouble_wholeOfDouble ?_
      split
      · exact Nat.one_pos
      · exact Nat.pow_pos (by decide)

theorem wholeOfDecimal_of_le {w : Nat} (small : w ≤ greatest) :
    wholeOfDecimal w 0 = some (wholeOfDouble w 1) := by
  have bound : greatest < 10 ^ 20 := by decide
  have digits : digitCount w ≤ 20 := Nat.toDigits_length 10 w 20 (by decide) (small.trans_lt bound)
  have finite : ¬ overflow ≤ w := by
    have : greatest < overflow := by decide +kernel
    omega
  simp only [wholeOfDecimal]
  split
  · next zero =>
    have : w = 0 := by omega
    subst this
    rfl
  · rw [if_neg (by omega)]
    have whole : w * Nat.pow 10 (0 : Int).toNat = w := Nat.mul_one w
    simp only [Int.le_refl, if_true, whole, Nat.mul_one, if_neg finite]

/-- The number of 64 bits for a whole number: what is beyond the range becomes the greatest. -/
def clamp (w : Nat) : UInt64 := UInt64.ofNat (min w greatest)

theorem toNat_clamp (w : Nat) : (clamp w).toNat = min w greatest := by
  have fits : min w greatest < UInt64.size := by
    have : greatest < UInt64.size := by decide
    omega
  exact UInt64.toNat_ofNat_of_lt' fits

theorem toUInt64?_ofInt {w : Nat} (small : w ≤ greatest) :
    (ofInt w).toUInt64? = some (clamp (wholeOfDouble w 1)) := by
  have unsigned : ofInt w = { sign := .none, magnitude := .decimal w 0 true } := by
    rw [ofInt, if_neg (by omega), Int.natAbs_natCast]
  rw [unsigned, toUInt64?]
  simp only [wholeOfDecimal_of_le small, Option.map_some, reduceCtorEq, if_false]
  rfl

/-- What a double holds goes to a number of 64 bits that is read again. -/
theorem toUInt64?_ofInt_clamp (w : Nat) (h : IsDouble w) :
    (ofInt (clamp w).toNat).toUInt64? = some (clamp w) := by
  rw [toNat_clamp, toUInt64?_ofInt (Nat.min_le_right _ _)]
  rcases Nat.le_total w greatest with small | large
  · rw [Nat.min_eq_left small, wholeOfDouble_of_isDouble h]
  · have next_double : clamp (wholeOfDouble greatest 1) = clamp greatest := by decide +kernel
    rw [Nat.min_eq_right large, next_double, clamp, clamp, Nat.min_self, Nat.min_eq_right large]

/-- **What was read of a number is read again.** -/
theorem toUInt64?_ofInt_of_toUInt64? {n : Number} {m : UInt64} (read : n.toUInt64? = some m) :
    (ofInt m.toNat).toUInt64? = some m := by
  have zero : IsDouble 0 := isDouble_of_le (Nat.zero_le _)
  obtain ⟨sign, magnitude⟩ := n
  cases magnitude with
  | hex h =>
    cases sign with
    | none =>
      simp only [toUInt64?, Option.ite_none_right_eq_some, Option.some.injEq] at read
      obtain ⟨small, rfl⟩ := read
      refine toUInt64?_ofInt_clamp h (isDouble_of_le ?_)
      have : UInt32.size ≤ 2 ^ 53 := by decide
      omega
    | plus | minus => cases read
  | infinity =>
    cases sign with
    | none =>
      cases read
      decide +kernel
    | minus =>
      cases read
      exact toUInt64?_ofInt_clamp 0 zero
    | plus => cases read
  | nan =>
    cases sign with
    | none | minus =>
      cases read
      exact toUInt64?_ofInt_clamp 0 zero
    | plus => cases read
  | decimal digits e whole =>
    simp only [toUInt64?, Option.map_eq_some_iff] at read
    obtain ⟨w, read, rfl⟩ := read
    split
    · exact toUInt64?_ofInt_clamp 0 zero
    · exact toUInt64?_ofInt_clamp w (isDouble_of_wholeOfDecimal read)

/-- One more than 2⁵³ is no double and is read as 2⁵³; that, and the greatest number, are read as
they are. -/
example : (ofInt 9007199254740993).toUInt64? = some 9007199254740992 ∧
    (ofInt 9007199254740992).toUInt64? = some 9007199254740992 ∧
    (ofInt 18446744073709551615).toUInt64? = some 18446744073709551615 := by
  decide +kernel

end ChannelRouting.Json5.Number
