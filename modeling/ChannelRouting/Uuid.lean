/-!
# Identifiers of 128 bits

The text of a `Uuid` is 32 lower-case hexadecimal digits in groups of 8, 4, 4, 4
and 12 with hyphens between. Four layouts are
read: grouped, bare digits, grouped within braces, and grouped behind
`urn:uuid:`; letter case does not matter.

`Uuid.ofString?_toString`: what is written is read back.
-/

namespace ChannelRouting

/-- An identifier. -/
structure Uuid where
  bits : BitVec 128
deriving DecidableEq

namespace Uuid

def toNat (u : Uuid) : Nat := u.bits.toNat

/-- The identifier of a number, of which higher bits are lost. -/
def ofNat (n : Nat) : Uuid := ⟨BitVec.ofNat 128 n⟩

theorem ofNat_toNat (u : Uuid) : ofNat u.toNat = u := by simp [ofNat, toNat]

instance : Inhabited Uuid := ⟨ofNat 0⟩

instance : LT Uuid := ⟨fun a b => a.toNat < b.toNat⟩

/-- One hexadecimal digit, lower case. -/
def digit (n : Nat) : Char :=
  if n < 10 then Char.ofNat (48 + n) else Char.ofNat (87 + n)

/-- The value of a hexadecimal digit in either case. -/
def digitValue? (c : Char) : Option Nat :=
  if '0' ≤ c ∧ c ≤ '9' then some (c.toNat - 48)
  else if 'a' ≤ c ∧ c ≤ 'f' then some (c.toNat - 87)
  else if 'A' ≤ c ∧ c ≤ 'F' then some (c.toNat - 55)
  else none

/-- The lowest `width` hexadecimal digits of a number, the highest first. -/
def digits : (width : Nat) → Nat → List Char
  | 0, _ => []
  | width + 1, n => digits width (n / 16) ++ [digit (n % 16)]

/-- The number that digits write, read after the value `acc`. -/
def value? (acc : Nat) : List Char → Option Nat
  | [] => some acc
  | c :: cs => (digitValue? c).bind fun d => value? (acc * 16 + d) cs

/-- The grouped form of 32 digits. -/
def group (ds : List Char) : List Char :=
  ds.take 8 ++ '-' :: ((ds.drop 8).take 4 ++ '-' :: ((ds.drop 12).take 4
    ++ '-' :: ((ds.drop 16).take 4 ++ '-' :: ds.drop 20)))

/-- The 32 digits of a grouped form. -/
def ungroup? (cs : List Char) : Option (List Char) :=
  if cs.length = 36 ∧ cs[8]? = some '-' ∧ cs[13]? = some '-' ∧ cs[18]? = some '-'
      ∧ cs[23]? = some '-' then
    some (cs.take 8 ++ (cs.drop 9).take 4 ++ (cs.drop 14).take 4 ++ (cs.drop 19).take 4
      ++ cs.drop 24)
  else none

/-- The text of an identifier: grouped lower-case digits. -/
protected def toString (u : Uuid) : String := String.ofList (group (digits 32 u.toNat))

instance : ToString Uuid := ⟨Uuid.toString⟩

/-- The identifier that bare digits write. -/
def ofDigits? (ds : List Char) : Option Uuid :=
  if ds.length = 32 then (value? 0 ds).map ofNat else none

/-- The identifier a text writes, in any of the four layouts. -/
def ofChars? (cs : List Char) : Option Uuid :=
  if cs.length = 32 then ofDigits? cs
  else if cs.length = 36 then (ungroup? cs).bind ofDigits?
  else if cs.length = 38 ∧ cs.head? = some '{' ∧ cs.getLast? = some '}' then
    (ungroup? (cs.drop 1).dropLast).bind ofDigits?
  else if cs.length = 45 ∧ (cs.take 9).map Char.toLower = "urn:uuid:".toList then
    (ungroup? (cs.drop 9)).bind ofDigits?
  else none

def ofString? (s : String) : Option Uuid := ofChars? s.toList

/-! ## What is written is read back -/

theorem length_digits (width n : Nat) : (digits width n).length = width := by
  induction width generalizing n with
  | zero => rfl
  | succ w ih => simp [digits, ih]

theorem digitValue?_digit {n : Nat} (h : n < 16) : digitValue? (digit n) = some n := by
  have : ∀ k : Fin 16, digitValue? (digit k.val) = some k.val := by decide
  exact this ⟨n, h⟩

theorem value?_append (acc : Nat) (ds es : List Char) :
    value? acc (ds ++ es) = (value? acc ds).bind fun n => value? n es := by
  induction ds generalizing acc with
  | nil => rfl
  | cons c ds ih =>
    simp only [List.cons_append, value?]
    cases digitValue? c <;> simp [ih]

/-- How many numbers `width` digits can write. -/
def reach : (width : Nat) → Nat
  | 0 => 1
  | width + 1 => 16 * reach width

theorem toNat_lt (u : Uuid) : u.toNat < reach 32 := by
  have h : reach 32 = 2 ^ 128 := by decide
  rw [h]
  exact u.bits.isLt

theorem value?_digits (acc width n : Nat) :
    value? acc (digits width n) = some (acc * reach width + n % reach width) := by
  induction width generalizing n with
  | zero => simp [digits, value?, reach, Nat.mod_one]
  | succ w ih =>
    rw [digits, value?_append, ih]
    simp only [Option.bind_some, value?, digitValue?_digit (Nat.mod_lt n (by decide : 0 < 16)),
      Option.some.injEq]
    rw [reach, Nat.mod_mul, Nat.mul_left_comm, Nat.add_mul, Nat.mul_comm (n / 16 % reach w) 16]
    omega

theorem ofDigits?_digits (u : Uuid) : ofDigits? (digits 32 u.toNat) = some u := by
  rw [ofDigits?, if_pos (length_digits 32 u.toNat), value?_digits, Nat.zero_mul, Nat.zero_add,
    Nat.mod_eq_of_lt u.toNat_lt, Option.map_some, ofNat_toNat]

theorem ungroup?_append {a b c d e : List Char} (ha : a.length = 8) (hb : b.length = 4)
    (hc : c.length = 4) (hd : d.length = 4) (he : e.length = 12) :
    ungroup? (a ++ '-' :: (b ++ '-' :: (c ++ '-' :: (d ++ '-' :: e))))
      = some (a ++ b ++ c ++ d ++ e) := by
  simp [ungroup?, List.drop_append, List.drop_of_length_le, ha, hb, hc, hd, he]

/-- Grouping 32 digits and reading the groups gives the digits. -/
theorem ungroup?_group {ds : List Char} (h : ds.length = 32) : ungroup? (group ds) = some ds := by
  rw [group, ungroup?_append (by simp [h]) (by simp [h]) (by simp [h]) (by simp [h]) (by simp [h])]
  have : ∀ n m : Nat, (ds.drop n).take m ++ ds.drop (n + m) = ds.drop n := fun n m => by
    rw [← List.drop_drop]
    exact List.take_append_drop m (ds.drop n)
  simp only [List.append_assoc, this 16 4, this 12 4, this 8 4, List.take_append_drop]

theorem length_group {ds : List Char} (h : ds.length = 32) : (group ds).length = 36 := by
  simp [group, h]

/-- An identifier is read back from its text. -/
theorem ofString?_toString (u : Uuid) : ofString? u.toString = some u := by
  have h := length_digits 32 u.toNat
  rw [ofString?, Uuid.toString, String.toList_ofList, ofChars?, length_group h, ungroup?_group h,
    if_neg (by decide : ¬ 36 = 32), if_pos rfl, Option.bind_some, ofDigits?_digits]

end Uuid

end ChannelRouting
