import Mathlib.Tactic.NormNum
import DiceBot.Proofs.Number.Pattern

/-!
# Nearest values

The value of the 64-bit format nearest to a number, and of two nearest ones the even one. Where it
is a natural number below two to the power of 52, the numbers that it is nearest to are an interval
around it: up to half the distance to the next value on either side, the ends included.
-/

namespace DiceBot.Binary64

/-- Whether a value of the format is the one nearest to a number. If another value is as near, the
pattern of the nearest one is even. -/
def IsNearest (x v : ℚ) : Prop :=
  ∃ bits, Encodes bits v ∧ ∀ bits' w, Encodes bits' w →
    |x - v| ≤ |x - w| ∧ (|x - v| = |x - w| → w = v ∨ bits.toNat % 2 = 0)

/-- The distance from a natural number below two to the power of 52 to the next value of the
format. -/
def gapAbove (n : ℕ) : ℚ := 2 ^ ((Nat.log2 n : ℤ) - 52)

/-- The distance from a natural number below two to the power of 52 to the value of the format
before it, which is half the distance to the next one if the number is a power of two. -/
def gapBelow (n : ℕ) : ℚ := if n = 2 ^ Nat.log2 n then gapAbove n / 2 else gapAbove n

/-- Whether a pattern can hold this significand with this exponent. The significand has 53 binary
digits unless the exponent is the least one. -/
structure IsCanonical (significand : ℕ) (exponent : ℤ) : Prop where
  lt : significand < 2 ^ 53
  exponent_le : exponent ≤ 971
  le_exponent : -1074 ≤ exponent
  le_or_exponent_eq : 2 ^ 52 ≤ significand ∨ exponent = -1074

/-- A pattern holds the sign, the significand and the exponent of its number. -/
theorem Encodes.exists_canonical {bits : UInt64} {w : ℚ} (h : Encodes bits w) :
    ∃ sign m e, sign < 2 ∧ IsCanonical m e ∧ bits.toNat % 2 = m % 2 ∧
      w = (-1) ^ sign * (m * 2 ^ e) := by
  cases h with
  | @subnormal sign fraction hfields =>
    obtain ⟨hsign, -, hfraction, hbits⟩ := hfields
    have hunits := units_eq 0 fraction (-1022)
    rw [zero_add, zero_mul, zero_add] at hunits
    refine ⟨sign, fraction, -1074, hsign, ⟨by omega, by decide, le_refl _, .inr rfl⟩, by omega, ?_⟩
    rw [mul_assoc, hunits]
    rfl
  | @normal sign exponent fraction hfields hlow hhigh =>
    obtain ⟨hsign, -, hfraction, hbits⟩ := hfields
    have hshift : (exponent : ℤ) - 1023 - 52 = exponent - 1075 := by omega
    refine ⟨sign, 2 ^ 52 + fraction, exponent - 1075, hsign,
      ⟨by omega, by omega, by omega, .inl (Nat.le_add_right _ _)⟩, by omega, ?_⟩
    rw [mul_assoc, units_eq, one_mul, hshift]
    push_cast
    rfl

/-- Every significand and exponent that a pattern can hold are held by one, with either sign. -/
theorem IsCanonical.exists_encodes_signed {sign m : ℕ} {e : ℤ} (h : IsCanonical m e)
    (hsign : sign < 2) :
    ∃ bits, Encodes bits ((-1) ^ sign * (m * 2 ^ e)) ∧ bits.toNat % 2 = m % 2 := by
  obtain ⟨hlt, hhigh, hlow, hnormal⟩ := h
  obtain ⟨exponent, hexponent⟩ := Int.eq_ofNat_of_zero_le (show 0 ≤ e + 1075 by omega)
  by_cases hm : 2 ^ 52 ≤ m
  · have hsize : sign * 2 ^ 63 + exponent * 2 ^ 52 + (m - 2 ^ 52) < UInt64.size := by
      simp only [UInt64.size]
      omega
    have hfields : HasFields (.ofNatLT _ hsize) sign exponent (m - 2 ^ 52) :=
      ⟨hsign, by omega, by omega, UInt64.toNat_ofNatLT⟩
    have hsum : 2 ^ 52 + (m - 2 ^ 52) = m := by omega
    have hshift : (exponent : ℤ) - 1075 = e := by omega
    refine ⟨_, value?_ofBits_iff.mp ?_, by rw [hfields.bits_eq]; omega⟩
    rw [hfields.ofBits_eq, if_neg (by omega), if_neg (by omega), hsum, hshift, value?,
      cast_sign hsign]
  · have hsize : sign * 2 ^ 63 + 0 * 2 ^ 52 + m < UInt64.size := by
      simp only [UInt64.size]
      omega
    have hfields : HasFields (.ofNatLT _ hsize) sign 0 m :=
      ⟨hsign, by decide, by omega, UInt64.toNat_ofNatLT⟩
    obtain rfl : e = -1074 := hnormal.resolve_left hm
    refine ⟨_, value?_ofBits_iff.mp ?_, by rw [hfields.bits_eq]; omega⟩
    rw [hfields.ofBits_eq, if_neg (by decide), if_pos rfl, value?, cast_sign hsign]

/-- A significand and an exponent in range are those of a pattern, which is even if the significand
is. -/
theorem IsCanonical.exists_encodes {m : ℕ} {e : ℤ} (h : IsCanonical m e) :
    ∃ bits, Encodes bits (m * 2 ^ e) ∧ bits.toNat % 2 = m % 2 := by
  simpa using h.exists_encodes_signed (show 0 < 2 by decide)

/-- A value has one significand. -/
theorem IsCanonical.eq {m m' : ℕ} {e e' : ℤ} (h : IsCanonical m e) (h' : IsCanonical m' e')
    (heq : (m : ℚ) * 2 ^ e = m' * 2 ^ e') : m = m' := by
  wlog hle : e ≤ e' generalizing m m' e e'
  · exact (this h' h heq.symm (by omega)).symm
  obtain ⟨j, hj⟩ := Int.eq_ofNat_of_zero_le (Int.sub_nonneg_of_le hle)
  have hexponent : e' = j + e := by omega
  have hne : (2 : ℚ) ^ e ≠ 0 := by positivity
  rw [hexponent, zpow_add₀ (by norm_num), ← mul_assoc, mul_left_inj' hne, zpow_natCast] at heq
  have hmul : m = m' * 2 ^ j := by exact_mod_cast heq
  cases j with
  | zero => simpa using hmul
  | succ j =>
    have hpow : 1 ≤ 2 ^ j := Nat.one_le_two_pow
    have hlow := h.le_exponent
    have hnormal := h'.le_or_exponent_eq.resolve_right (by omega)
    have hhigh := h.lt
    rw [pow_succ] at hmul
    nlinarith

/-- The last bit of a pattern tells whether the significand is even. -/
theorem Encodes.mod_two_eq {bits : UInt64} {m : ℕ} {e : ℤ} (h : Encodes bits (m * 2 ^ e))
    (hm : IsCanonical m e) : bits.toNat % 2 = m % 2 := by
  obtain ⟨sign, m', e', -, hm', heven, heq⟩ := h.exists_canonical
  have hnonneg : ∀ (k : ℕ) (f : ℤ), (0 : ℚ) ≤ k * 2 ^ f := fun k f => by positivity
  have habs := congrArg abs heq
  rw [abs_mul ((-1) ^ sign), abs_pow, abs_neg, abs_one, one_pow, one_mul,
    abs_of_nonneg (hnonneg m e), abs_of_nonneg (hnonneg m' e')] at habs
  rw [heven, hm.eq hm' habs]

/-- With a number its opposite is a value. -/
theorem Encodes.exists_neg {bits : UInt64} {w : ℚ} (h : Encodes bits w) :
    ∃ bits', Encodes bits' (-w) ∧ bits'.toNat % 2 = bits.toNat % 2 := by
  obtain ⟨sign, m, e, hsign, hm, heven, rfl⟩ := h.exists_canonical
  obtain ⟨bits', hbits', heven'⟩ := hm.exists_encodes_signed (show 1 - sign < 2 by omega)
  refine ⟨bits', ?_, by rw [heven, heven']⟩
  obtain rfl | rfl : sign = 0 ∨ sign = 1 := by omega
  · simpa using hbits'
  · simpa using hbits'

/-- A value is a multiple of a power of two, or so small that its significand goes with a smaller
power. -/
theorem Encodes.multiple_or_small {bits : UInt64} {w : ℚ} (h : Encodes bits w) (e : ℤ) :
    (∃ j : ℤ, w = j * 2 ^ e) ∨ (-1074 < e ∧ |w| ≤ (2 ^ 53 - 1) * (2 ^ e / 2)) := by
  obtain ⟨sign, m, e', -, hm, -, rfl⟩ := h.exists_canonical
  have hlow := hm.le_exponent
  by_cases he : e ≤ e'
  · obtain ⟨j, hj⟩ := Int.eq_ofNat_of_zero_le (Int.sub_nonneg_of_le he)
    have hexponent : e' = j + e := by omega
    refine .inl ⟨(-1) ^ sign * (m * 2 ^ j), ?_⟩
    rw [hexponent, zpow_add₀ (by norm_num), zpow_natCast]
    push_cast
    ring
  · refine .inr ⟨by omega, ?_⟩
    have hnonneg : (0 : ℚ) ≤ m * 2 ^ e' := by positivity
    have hcast : (m : ℚ) ≤ 2 ^ 53 - 1 := by
      have hle : (m : ℚ) + 1 ≤ 2 ^ 53 := by exact_mod_cast hm.lt
      linarith
    have hpow : (2 : ℚ) ^ e' ≤ 2 ^ e / 2 := by
      have hle : (2 : ℚ) ^ e' ≤ 2 ^ (e - 1) := zpow_le_zpow_right₀ (by norm_num) (by omega)
      rwa [zpow_sub_one₀ (by norm_num)] at hle
    rw [abs_mul, abs_pow, abs_neg, abs_one, one_pow, one_mul, abs_of_nonneg hnonneg]
    gcongr

section Natural

variable {n : ℕ}

theorem gapAbove_pos (n : ℕ) : 0 < gapAbove n := by
  unfold gapAbove
  positivity

theorem gapBelow_pos (n : ℕ) : 0 < gapBelow n := by
  have hpos := gapAbove_pos n
  unfold gapBelow
  split
  · linarith
  · exact hpos

/-- The value before a natural number is no further away than the next one. -/
theorem gapBelow_le (n : ℕ) : gapBelow n ≤ gapAbove n := by
  have hpos := gapAbove_pos n
  unfold gapBelow
  split
  · linarith
  · exact le_refl _

theorem log2_lt_of_lt (hn : n ≠ 0) (hlt : n < 2 ^ 52) : Nat.log2 n < 52 := (Nat.log2_lt hn).mpr hlt

/-- The next value is at most half a unit away. -/
theorem gapAbove_le (hn : n ≠ 0) (hlt : n < 2 ^ 52) : gapAbove n ≤ 1 / 2 := by
  have hlog := log2_lt_of_lt hn hlt
  have hle : (2 : ℚ) ^ ((Nat.log2 n : ℤ) - 52) ≤ 2 ^ (-1 : ℤ) :=
    zpow_le_zpow_right₀ (by norm_num) (by omega)
  simpa [gapAbove] using hle

/-- A natural number is an even number of gaps, with 53 binary digits. -/
theorem exists_gaps (hn : n ≠ 0) (hlt : n < 2 ^ 52) :
    ∃ m : ℕ, 2 ^ 52 ≤ m ∧ m < 2 ^ 53 ∧ m % 2 = 0 ∧ m * gapAbove n = n ∧
      (n = 2 ^ Nat.log2 n ↔ m = 2 ^ 52) := by
  have hlog := log2_lt_of_lt hn hlt
  obtain ⟨k, hk⟩ := Nat.exists_eq_add_of_lt hlog
  have hpow : 2 ^ Nat.log2 n * 2 ^ (k + 1) = 2 ^ 52 := by rw [← pow_add, hk, Nat.add_assoc]
  have hlow := Nat.log2_self_le hn
  have hhigh := Nat.lt_log2_self (n := n)
  have hpos : 0 < 2 ^ (k + 1) := by positivity
  refine ⟨n * 2 ^ (k + 1), ?_, ?_, ?_, ?_, ?_⟩
  · rw [← hpow]
    exact Nat.mul_le_mul_right _ hlow
  · rw [pow_succ] at hhigh
    have hmul := Nat.mul_lt_mul_of_pos_right hhigh hpos
    rw [mul_right_comm, hpow] at hmul
    exact hmul
  · rw [pow_succ, ← mul_assoc, Nat.mul_mod_left]
  · have hexponent : ((Nat.log2 n : ℤ) - 52) = -((k + 1 : ℕ) : ℤ) := by omega
    have hne : (2 : ℚ) ^ (k + 1) ≠ 0 := by positivity
    rw [gapAbove, hexponent, zpow_neg, zpow_natCast]
    push_cast
    rw [mul_assoc, mul_inv_cancel₀ hne, mul_one]
  · rw [← hpow]
    exact ⟨fun h => by rw [← h], fun h => Nat.eq_of_mul_eq_mul_right hpos h⟩

/-- No other value lies between a natural number and the values next to it. A value with a smaller
exponent lies below the power of two that the number starts from. -/
theorem Encodes.apart {bits : UInt64} {w : ℚ} (h : Encodes bits w) (hn : n ≠ 0) (hlt : n < 2 ^ 52) :
    w = n ∨ n + gapAbove n ≤ w ∨ w ≤ n - gapBelow n := by
  obtain ⟨m, hlow, -, -, hvalue, hpower⟩ := exists_gaps hn hlt
  have hpos := gapAbove_pos n
  have hbelow := gapBelow_le n
  rcases h.multiple_or_small ((Nat.log2 n : ℤ) - 52) with ⟨j, hj⟩ | ⟨-, hsmall⟩
  · rw [← gapAbove] at hj
    rcases lt_trichotomy j m with hless | rfl | hmore
    · have hcast : (j : ℚ) + 1 ≤ m := by exact_mod_cast hless
      exact .inr (.inr (by nlinarith))
    · exact .inl (by rw [hj, ← hvalue, Int.cast_natCast])
    · have hcast : (m : ℚ) + 1 ≤ j := by exact_mod_cast hmore
      exact .inr (.inl (by nlinarith))
  · rw [← gapAbove] at hsmall
    have hle := le_trans (le_abs_self w) hsmall
    refine .inr (.inr ?_)
    by_cases hm : m = 2 ^ 52
    · rw [hm] at hvalue
      push_cast at hvalue
      rw [gapBelow, if_pos (hpower.mpr hm)]
      linarith
    · have hcast : (2 : ℚ) ^ 52 + 1 ≤ m := by exact_mod_cast Nat.lt_of_le_of_ne hlow (Ne.symm hm)
      nlinarith

/-- A natural number below two to the power of 52 is a value with an even significand. -/
theorem exists_canonical_natural (hn : n ≠ 0) (hlt : n < 2 ^ 52) :
    ∃ m e, IsCanonical m e ∧ m % 2 = 0 ∧ (n : ℚ) = m * 2 ^ e := by
  obtain ⟨m, hlow, hhigh, heven, hvalue, -⟩ := exists_gaps hn hlt
  have hlog := log2_lt_of_lt hn hlt
  exact ⟨m, _, ⟨hhigh, by omega, by omega, .inl hlow⟩, heven, hvalue.symm⟩

/-- The values next to the number have odd significands. -/
theorem exists_canonical_above (hn : n ≠ 0) (hlt : n < 2 ^ 52) :
    ∃ m e, IsCanonical m e ∧ m % 2 = 1 ∧ n + gapAbove n = m * 2 ^ e := by
  obtain ⟨m, hlow, hhigh, heven, hvalue, -⟩ := exists_gaps hn hlt
  have hlog := log2_lt_of_lt hn hlt
  refine ⟨m + 1, (Nat.log2 n : ℤ) - 52, ⟨by omega, by omega, by omega, .inl (by omega)⟩,
    by omega, ?_⟩
  rw [← gapAbove, Nat.cast_add_one, add_one_mul, hvalue]

/-- The value before a natural number has an odd significand. -/
theorem exists_canonical_below (hn : n ≠ 0) (hlt : n < 2 ^ 52) :
    ∃ m e, IsCanonical m e ∧ m % 2 = 1 ∧ n - gapBelow n = m * 2 ^ e := by
  obtain ⟨m, hlow, hhigh, heven, hvalue, hpower⟩ := exists_gaps hn hlt
  have hlog := log2_lt_of_lt hn hlt
  by_cases hm : m = 2 ^ 52
  · refine ⟨2 ^ 53 - 1, (Nat.log2 n : ℤ) - 52 - 1,
      ⟨by omega, by omega, by omega, .inl (by omega)⟩, by decide, ?_⟩
    rw [zpow_sub_one₀ (by norm_num), ← gapAbove, ← hvalue, hm, gapBelow, if_pos (hpower.mpr hm)]
    push_cast
    ring
  · refine ⟨m - 1, (Nat.log2 n : ℤ) - 52, ⟨by omega, by omega, by omega, .inl (by omega)⟩,
      by omega, ?_⟩
    rw [← gapAbove, Nat.cast_sub (by omega), Nat.cast_one, sub_one_mul, hvalue, gapBelow,
      if_neg (mt hpower.mp hm)]

end Natural

/-- The lesser of two values is at least as near unless the number lies beyond the middle. -/
theorem abs_sub_le_abs_sub_iff {x a b : ℚ} (h : a < b) : |x - a| ≤ |x - b| ↔ x ≤ (a + b) / 2 := by
  rw [← sq_le_sq]
  constructor <;> intro hle <;> nlinarith

/-- The greater of two values is at least as near unless the number lies before the middle. -/
theorem abs_sub_le_abs_sub_iff' {x a b : ℚ} (h : a < b) :
    |x - b| ≤ |x - a| ↔ (a + b) / 2 ≤ x := by
  rw [← sq_le_sq]
  constructor <;> intro hle <;> nlinarith

section Interval

variable {n : ℕ} {x v : ℚ}

/-- The numbers that a natural number is the nearest value to. -/
theorem isNearest_natural_iff (hn : n ≠ 0) (hlt : n < 2 ^ 52) :
    IsNearest x n ↔ n - gapBelow n / 2 ≤ x ∧ x ≤ n + gapAbove n / 2 := by
  have habove := gapAbove_pos n
  have hbelow := gapBelow_pos n
  constructor
  · rintro ⟨bits, -, hnearest⟩
    obtain ⟨m, e, hm, -, hafter⟩ := exists_canonical_above hn hlt
    obtain ⟨m', e', hm', -, hbefore⟩ := exists_canonical_below hn hlt
    obtain ⟨after, hencodes, -⟩ := hm.exists_encodes
    obtain ⟨before, hencodes', -⟩ := hm'.exists_encodes
    rw [← hafter] at hencodes
    rw [← hbefore] at hencodes'
    have hlow := (abs_sub_le_abs_sub_iff' (by linarith)).mp (hnearest before _ hencodes').1
    have hhigh := (abs_sub_le_abs_sub_iff (by linarith)).mp (hnearest after _ hencodes).1
    constructor <;> linarith
  · rintro ⟨hlow, hhigh⟩
    obtain ⟨m, e, hm, heven, hvalue⟩ := exists_canonical_natural hn hlt
    obtain ⟨bits, hbits, hlast⟩ := hm.exists_encodes
    rw [← hvalue] at hbits
    refine ⟨bits, hbits, fun bits' w hw => ⟨?_, fun _ => .inr (by omega)⟩⟩
    rcases hw.apart hn hlt with rfl | hw | hw
    · exact le_refl _
    · exact (abs_sub_le_abs_sub_iff (by linarith)).mpr (by linarith)
    · exact (abs_sub_le_abs_sub_iff' (by linarith)).mpr (by linarith)

/-- A natural number is nearest to itself. -/
theorem isNearest_natural (hn : n ≠ 0) (hlt : n < 2 ^ 52) : IsNearest n n := by
  have habove := gapAbove_pos n
  have hbelow := gapBelow_pos n
  exact (isNearest_natural_iff hn hlt).mpr ⟨by linarith, by linarith⟩

/-- A number that a natural number is nearest to is in the range of the format. -/
theorem IsNearest.natural_range (h : IsNearest x n) (hn : n ≠ 0) (hlt : n < 2 ^ 52) :
    0 < x ∧ x < 2 ^ 53 := by
  obtain ⟨hlow, hhigh⟩ := (isNearest_natural_iff hn hlt).mp h
  have hgap := gapAbove_le hn hlt
  have hbelow := gapBelow_le n
  have hone : (1 : ℚ) ≤ n := by exact_mod_cast Nat.one_le_iff_ne_zero.mpr hn
  have hcast : (n : ℚ) < 2 ^ 52 := by exact_mod_cast hlt
  constructor <;> linarith

/-- Of the natural numbers it is only itself that a natural number is the nearest value to. -/
theorem isNearest_natural_natural_iff {m : ℕ} (hn : n ≠ 0) (hlt : n < 2 ^ 52) :
    IsNearest m n ↔ m = n := by
  constructor
  · intro h
    obtain ⟨hlow, hhigh⟩ := (isNearest_natural_iff hn hlt).mp h
    have hgap := gapAbove_le hn hlt
    have hbelow := gapBelow_le n
    have hnext : (m : ℚ) < (n + 1 : ℕ) := by push_cast; linarith
    have hnext' : (n : ℚ) < (m + 1 : ℕ) := by push_cast; linarith
    rw [Nat.cast_lt] at hnext hnext'
    omega
  · rintro rfl
    exact isNearest_natural hn hlt

/-- No other value is nearest to a number that a natural number is the nearest value to. The values
next to the natural number have odd patterns, so they lose a tie. -/
theorem IsNearest.eq_natural (hv : IsNearest x v) (h : IsNearest x n) (hn : n ≠ 0)
    (hlt : n < 2 ^ 52) : v = n := by
  obtain ⟨hlow, hhigh⟩ := (isNearest_natural_iff hn hlt).mp h
  have habove := gapAbove_pos n
  have hbelow := gapBelow_pos n
  obtain ⟨bits, hbits, hnearest⟩ := h
  obtain ⟨bits', hbits', hnearest'⟩ := hv
  obtain ⟨hle, htie⟩ := hnearest' bits n hbits
  have hequal : |x - v| = |x - n| := le_antisymm hle (hnearest bits' v hbits').1
  rcases htie hequal with hv | heven
  · exact hv.symm
  rcases hbits'.apart hn hlt with hv | hv | hv
  · exact hv
  · have hmiddle := (abs_sub_le_abs_sub_iff' (by linarith)).mp hle
    obtain ⟨m, e, hm, hodd, hvalue⟩ := exists_canonical_above hn hlt
    obtain rfl : v = m * 2 ^ e := by linarith
    have hlast := hbits'.mod_two_eq hm
    omega
  · have hmiddle := (abs_sub_le_abs_sub_iff (by linarith)).mp hle
    obtain ⟨m, e, hm, hodd, hvalue⟩ := exists_canonical_below hn hlt
    obtain rfl : v = m * 2 ^ e := by linarith
    have hlast := hbits'.mod_two_eq hm
    omega

end Interval

end DiceBot.Binary64
