import DiceBot.Proofs.Number.Nearest
import DiceBot.Proofs.Text.Numeral

/-!
# Rounding of numerals

The floating-point value of a numeral is the value of the format nearest to the number that the
numeral denotes, however many digits it has. If it is an infinity, the number is at least two to the
power of 1023.
-/

namespace DiceBot

namespace Binary64

/-- Whether a positive number comes to a whole number of units, where the unit is the least one with
which the whole number has no more than 53 binary digits. -/
structure RoundsTo (x : ℚ) (m : ℕ) (e : ℤ) : Prop where
  near : |x / 2 ^ e - m| ≤ 1 / 2
  even_of_tie : |x / 2 ^ e - m| = 1 / 2 → m % 2 = 0
  lt : x / 2 ^ e < 2 ^ 53
  le_exponent : -1074 ≤ e
  large : -1074 < e → 2 ^ 52 ≤ x / 2 ^ e

namespace RoundsTo

variable {x : ℚ} {m : ℕ} {e : ℤ}

/-- The number of units has at most 53 binary digits, or it is the least one that has 54. -/
theorem le (h : RoundsTo x m e) : m ≤ 2 ^ 53 := by
  obtain ⟨hnear, -, hlt, -, -⟩ := h
  have hle := (abs_le.mp hnear).1
  have hcast : (m : ℚ) < (2 ^ 53 + 1 : ℕ) := by
    push_cast
    linarith
  exact Nat.lt_succ_iff.mp (by exact_mod_cast hcast)

/-- The number of units has at least 53 binary digits, unless the unit is the least of the format. -/
theorem le_or_exponent_eq (h : RoundsTo x m e) : 2 ^ 52 ≤ m ∨ e = -1074 := by
  obtain ⟨hnear, -, -, hexponent, hlarge⟩ := h
  by_cases he : e = -1074
  · exact .inr he
  · have hle := (abs_le.mp hnear).2
    have hcast : ((2 ^ 52 : ℕ) : ℚ) < (m + 1 : ℕ) := by
      have hlarge := hlarge (by omega)
      push_cast
      linarith
    exact .inl (Nat.lt_succ_iff.mp (by exact_mod_cast hcast))

/-- If it is in range, the rounded number is a value. One with 54 binary digits has the next
exponent. -/
theorem exists_canonical (h : RoundsTo x m e) (hrange : ¬(e > 971 ∨ (e = 971 ∧ m ≥ 2 ^ 53))) :
    ∃ m' e', IsCanonical m' e' ∧ m' % 2 = m % 2 ∧ (m : ℚ) * 2 ^ e = m' * 2 ^ e' := by
  have hle := h.le
  have hexponent := h.le_exponent
  by_cases hm : m = 2 ^ 53
  · refine ⟨2 ^ 52, e + 1, ⟨by decide, by omega, by omega, .inl (le_refl _)⟩, by omega, ?_⟩
    rw [hm, zpow_add_one₀ (by norm_num)]
    push_cast
    ring
  · exact ⟨m, e, ⟨by omega, by omega, hexponent, h.le_or_exponent_eq⟩, rfl, rfl⟩

/-- No whole number of units is nearer. -/
theorem near_of_multiple (h : RoundsTo x m e) (j : ℤ) :
    |x / 2 ^ e - m| ≤ |x / 2 ^ e - j| ∧
      (|x / 2 ^ e - m| = |x / 2 ^ e - j| → j = m ∨ m % 2 = 0) := by
  by_cases hj : j = m
  · rw [hj, Int.cast_natCast]
    exact ⟨le_refl _, fun _ => .inl rfl⟩
  · have hapart : (1 : ℚ) ≤ |(j - m : ℤ)| := by
      exact_mod_cast Int.one_le_abs (sub_ne_zero.mpr hj)
    push_cast at hapart
    have hsum := abs_sub_le (j : ℚ) (x / 2 ^ e) m
    rw [abs_sub_comm (j : ℚ) (x / 2 ^ e)] at hsum
    have hnear := h.near
    exact ⟨by linarith, fun htie => .inr (h.even_of_tie (by linarith))⟩

/-- The rounded number is the nearest value. A value that is no multiple of the unit lies below the
least number with 53 binary digits, and that one is a multiple. -/
theorem isNearest (h : RoundsTo x m e) (hrange : ¬(e > 971 ∨ (e = 971 ∧ m ≥ 2 ^ 53))) :
    IsNearest x (m * 2 ^ e) := by
  have hunit : (0 : ℚ) < 2 ^ e := by positivity
  have hdistance : ∀ y : ℚ, |x - y * 2 ^ e| = |x / 2 ^ e - y| * 2 ^ e := by
    intro y
    rw [← abs_of_pos hunit, ← abs_mul, abs_of_pos hunit, sub_mul, div_mul_cancel₀ _ hunit.ne']
  obtain ⟨m', e', hcanonical, heven, hvalue⟩ := h.exists_canonical hrange
  obtain ⟨bits, hbits, hlast⟩ := hcanonical.exists_encodes
  rw [← hvalue] at hbits
  refine ⟨bits, hbits, fun bits' w hw => ?_⟩
  rw [hdistance m]
  rcases hw.multiple_or_small e with ⟨j, rfl⟩ | ⟨he, hsmall⟩
  · obtain ⟨hle, htie⟩ := h.near_of_multiple j
    rw [hdistance j]
    refine ⟨mul_le_mul_of_nonneg_right hle hunit.le, fun heq => ?_⟩
    rcases htie (mul_right_cancel₀ hunit.ne' heq) with rfl | heven
    · exact .inl (by rw [Int.cast_natCast])
    · exact .inr (by omega)
  · have hlarge := h.large he
    obtain ⟨hle, -⟩ := h.near_of_multiple (2 ^ 52)
    rw [Int.cast_pow, Int.cast_ofNat, abs_of_nonneg (sub_nonneg.mpr hlarge)] at hle
    have hless : |x / 2 ^ e - m| * 2 ^ e < |x - w| := by
      calc |x / 2 ^ e - m| * 2 ^ e
          ≤ (x / 2 ^ e - 2 ^ 52) * 2 ^ e := by gcongr
        _ = x - 2 ^ 52 * 2 ^ e := by rw [sub_mul, div_mul_cancel₀ _ hunit.ne']
        _ < x - w := by linarith [le_abs_self w]
        _ ≤ |x - w| := le_abs_self _
    exact ⟨hless.le, fun heq => absurd heq hless.ne⟩

/-- Numbers that are out of range are great. -/
theorem le_of_overflow (h : RoundsTo x m e) (hrange : e > 971 ∨ (e = 971 ∧ m ≥ 2 ^ 53)) :
    2 ^ 1023 ≤ x := by
  have hunit : (0 : ℚ) < 2 ^ e := by positivity
  have hpow : (2 : ℚ) ^ (971 : ℤ) ≤ 2 ^ e := zpow_le_zpow_right₀ (by norm_num) (by omega)
  have hlarge := (le_div_iff₀ hunit).mp (h.large (by omega))
  calc (2 : ℚ) ^ 1023 = 2 ^ 52 * 2 ^ (971 : ℤ) := by rw [zpow_ofNat, ← pow_add]
    _ ≤ 2 ^ 52 * 2 ^ e := by gcongr
    _ ≤ x := hlarge

end RoundsTo

/-- With the opposite number goes the opposite value. -/
theorem IsNearest.neg {x v : ℚ} (h : IsNearest x v) : IsNearest (-x) (-v) := by
  have hdistance : ∀ w, |-x - w| = |x - -w| := fun w => by rw [← abs_neg]; congr 1; ring
  obtain ⟨bits, hbits, hnearest⟩ := h
  obtain ⟨bits', hbits', heven⟩ := hbits.exists_neg
  refine ⟨bits', hbits', fun other w hw => ?_⟩
  obtain ⟨other', hother, -⟩ := hw.exists_neg
  obtain ⟨hle, htie⟩ := hnearest other' (-w) hother
  rw [hdistance, hdistance, neg_neg]
  refine ⟨hle, fun heq => ?_⟩
  rcases htie heq with hw | hlast
  · exact .inl (by rw [← hw, neg_neg])
  · exact .inr (by rw [heven, hlast])

/-- Nothing but zero is nearest to a number of less than half the least value. -/
theorem isNearest_zero {x : ℚ} (h : |x| < 2 ^ (-1075 : ℤ)) : IsNearest x 0 := by
  have hcanonical : IsCanonical 0 (-1074) := ⟨by decide, by decide, le_refl _, .inr rfl⟩
  obtain ⟨bits, hbits, hlast⟩ := hcanonical.exists_encodes
  rw [Nat.cast_zero, zero_mul] at hbits
  refine ⟨bits, hbits, fun bits' w hw => ?_⟩
  rcases hw.multiple_or_small (-1074) with ⟨j, rfl⟩ | ⟨he, -⟩
  · by_cases hj : j = 0
    · rw [hj, Int.cast_zero, zero_mul]
      exact ⟨le_refl _, fun _ => .inl rfl⟩
    · have hunit : (2 : ℚ) ^ (-1074 : ℤ) = 2 ^ (-1075 : ℤ) * 2 := by
        rw [← zpow_add_one₀ (by norm_num)]
        rfl
      have hone : (1 : ℚ) ≤ |(j : ℚ)| := by exact_mod_cast Int.one_le_abs hj
      have hpos : (0 : ℚ) < 2 ^ (-1075 : ℤ) := by positivity
      have hless : |x - 0| < |x - j * 2 ^ (-1074 : ℤ)| := by
        have hsum := abs_sub_abs_le_abs_sub (j * 2 ^ (-1074 : ℤ) : ℚ) x
        rw [abs_sub_comm, abs_mul, hunit, abs_of_pos (mul_pos hpos two_pos)] at hsum
        rw [hunit, sub_zero]
        nlinarith
      exact ⟨hless.le, fun heq => absurd heq hless.ne⟩
  · exact absurd he (lt_irrefl _)

end Binary64

namespace Decimal

open Binary64 (IsNearest RoundsTo)

/-- The rational number that a numeral denotes. -/
def value (d : Decimal) : ℚ := (if d.negative then -1 else 1) * (d.coefficient * 10 ^ d.exponent)

section Fraction

variable {numerator denominator base : ℕ}

/-- The denominator of a scaled fraction is positive. -/
theorem scale_pos (numerator : ℕ) (h : 0 < denominator) (hbase : 0 < base) (exponent : ℤ) :
    0 < (scale numerator denominator base exponent).2 := by
  cases exponent with
  | ofNat n => exact h
  | negSucc n => exact Nat.mul_pos h (Nat.pow_pos hbase)

/-- So is its numerator if that of the fraction is. -/
theorem scale_fst_pos (hnumerator : 0 < numerator) (hbase : 0 < base) (exponent : ℤ) :
    0 < (scale numerator denominator base exponent).1 := by
  cases exponent with
  | ofNat n => exact Nat.mul_pos hnumerator (Nat.pow_pos hbase)
  | negSucc n => exact hnumerator

/-- Scaling multiplies the fraction by the power. -/
theorem scale_div (numerator denominator : ℕ) (hbase : 0 < base) (exponent : ℤ) :
    ((scale numerator denominator base exponent).1 : ℚ) /
        (scale numerator denominator base exponent).2 =
      numerator / denominator * base ^ exponent := by
  have hne : (base : ℚ) ≠ 0 := by exact_mod_cast hbase.ne'
  cases exponent with
  | ofNat n =>
    simp only [scale, Nat.pow_eq, Int.ofNat_eq_natCast, zpow_natCast]
    push_cast
    ring
  | negSucc n =>
    simp only [scale, Nat.pow_eq, zpow_negSucc]
    push_cast
    rw [← div_div, div_eq_mul_inv _ ((base : ℚ) ^ (n + 1))]

/-- A fraction is its whole part and what is left of it. -/
theorem div_eq_add (numerator : ℕ) (h : 0 < denominator) :
    (numerator / denominator : ℚ) =
      (numerator / denominator : ℕ) + (numerator % denominator : ℕ) / denominator := by
  have hne : (denominator : ℚ) ≠ 0 := by exact_mod_cast h.ne'
  rw [eq_comm, eq_div_iff hne, add_mul, div_mul_cancel₀ _ hne]
  exact_mod_cast Nat.div_add_mod' numerator denominator

/-- A remainder is at most half the divisor exactly if twice the remainder is at most the divisor.
-/
theorem div_le_half_iff (rest : ℕ) (h : 0 < denominator) :
    (rest / denominator : ℚ) ≤ 1 / 2 ↔ 2 * rest ≤ denominator := by
  have hpos : (0 : ℚ) < denominator := by exact_mod_cast h
  rw [div_le_div_iff₀ hpos two_pos, one_mul, mul_comm]
  exact_mod_cast Iff.rfl

/-- It is at least half the divisor exactly if twice the remainder is at least the divisor. -/
theorem half_le_div_iff (rest : ℕ) (h : 0 < denominator) :
    1 / 2 ≤ (rest / denominator : ℚ) ↔ denominator ≤ 2 * rest := by
  have hpos : (0 : ℚ) < denominator := by exact_mod_cast h
  rw [div_le_div_iff₀ two_pos hpos, one_mul, mul_comm _ (2 : ℚ)]
  exact_mod_cast Iff.rfl

/-- Dividing to the nearest whole number errs by at most a half, and if it is a half the whole
number is even. -/
theorem abs_sub_divideToNearest_le (numerator : ℕ) (h : 0 < denominator) :
    |(numerator / denominator : ℚ) - divideToNearest numerator denominator| ≤ 1 / 2 ∧
      (|(numerator / denominator : ℚ) - divideToNearest numerator denominator| = 1 / 2 →
        divideToNearest numerator denominator % 2 = 0) := by
  have hpos : (0 : ℚ) < denominator := by exact_mod_cast h
  have hnonneg : (0 : ℚ) ≤ (numerator % denominator : ℕ) / denominator := by positivity
  have hlt : ((numerator % denominator : ℕ) : ℚ) / denominator < 1 := by
    rw [div_lt_one hpos]
    exact_mod_cast Nat.mod_lt numerator h
  have hhalf := div_le_half_iff (numerator % denominator) h
  have hhalf' := half_le_div_iff (numerator % denominator) h
  rw [div_eq_add numerator h, divideToNearest]
  generalize numerator / denominator = quotient at *
  generalize numerator % denominator = rest at *
  split
  · next hup =>
    have hge := hhalf'.mpr (by omega)
    push_cast
    rw [abs_of_nonpos (by linarith)]
    refine ⟨by linarith, fun heq => ?_⟩
    have hle := hhalf.mp (by linarith)
    omega
  · next hdown =>
    have hle := hhalf.mpr (by omega)
    rw [abs_of_nonneg (by linarith)]
    refine ⟨by linarith, fun heq => ?_⟩
    have hge := hhalf'.mp (by linarith)
    omega

/-- The powers of two around a positive number. -/
theorem log2_bounds {n : ℕ} (hn : 0 < n) :
    (2 : ℚ) ^ (Nat.log2 n : ℤ) ≤ n ∧ (n : ℚ) < 2 ^ ((Nat.log2 n : ℤ) + 1) := by
  constructor
  · exact_mod_cast Nat.log2_self_le hn.ne'
  · exact_mod_cast Nat.lt_log2_self

/-- The difference of the logarithms is the binary exponent of the fraction or one more. -/
theorem div_bounds (hnumerator : 0 < numerator) (h : 0 < denominator) :
    (2 : ℚ) ^ ((Nat.log2 numerator : ℤ) - Nat.log2 denominator - 1) ≤ numerator / denominator ∧
      (numerator / denominator : ℚ) <
        2 ^ ((Nat.log2 numerator : ℤ) - Nat.log2 denominator + 1) := by
  have hpos : (0 : ℚ) < denominator := by exact_mod_cast h
  have htwo : (2 : ℚ) ≠ 0 := by norm_num
  obtain ⟨hlow, hhigh⟩ := log2_bounds hnumerator
  obtain ⟨hlow', hhigh'⟩ := log2_bounds h
  generalize (Nat.log2 numerator : ℤ) = k at *
  generalize (Nat.log2 denominator : ℤ) = l at *
  constructor
  · rw [le_div_iff₀ hpos]
    calc (2 : ℚ) ^ (k - l - 1) * denominator ≤ 2 ^ (k - l - 1) * 2 ^ (l + 1) := by gcongr
      _ = 2 ^ k := by rw [← zpow_add₀ htwo]; congr 1; omega
      _ ≤ numerator := hlow
  · rw [div_lt_iff₀ hpos]
    calc (numerator : ℚ) < 2 ^ (k + 1) := hhigh
      _ = 2 ^ (k - l + 1) * 2 ^ l := by rw [← zpow_add₀ htwo]; congr 1; omega
      _ ≤ 2 ^ (k - l + 1) * denominator := by gcongr

/-- Comparing the parts of a scaled fraction compares the fraction with the power. -/
theorem scale_neg_lt_iff (numerator : ℕ) (h : 0 < denominator) (k : ℤ) :
    (scale numerator denominator 2 (-k)).1 < (scale numerator denominator 2 (-k)).2 ↔
      (numerator / denominator : ℚ) < 2 ^ k := by
  have hunit : (0 : ℚ) < (scale numerator denominator 2 (-k)).2 := by
    exact_mod_cast scale_pos numerator h two_pos _
  have hpow : (0 : ℚ) < 2 ^ k := by positivity
  have hscaled := scale_div numerator denominator two_pos (-k)
  rw [zpow_neg, ← div_eq_mul_inv, Nat.cast_two] at hscaled
  rw [← div_lt_one hpow, ← hscaled, div_lt_one hunit]
  exact_mod_cast Iff.rfl

/-- The fraction lies between the power of two with its binary exponent and the next power. -/
theorem binaryExponent_spec (hnumerator : 0 < numerator) (h : 0 < denominator) :
    (2 : ℚ) ^ binaryExponent numerator denominator ≤ numerator / denominator ∧
      (numerator / denominator : ℚ) < 2 ^ (binaryExponent numerator denominator + 1) := by
  obtain ⟨hlow, hhigh⟩ := div_bounds hnumerator h
  have hcompare := scale_neg_lt_iff numerator h ((Nat.log2 numerator : ℤ) - Nat.log2 denominator)
  simp only [binaryExponent]
  split
  · next hless => exact ⟨hlow, by rw [sub_add_cancel]; exact hcompare.mp hless⟩
  · next hmore => exact ⟨not_lt.mp (mt hcompare.mpr hmore), hhigh⟩

/-- A positive fraction is rounded to a multiple of a power of two. -/
theorem exists_roundsTo (negative : Bool) (hnumerator : 0 < numerator) (h : 0 < denominator) :
    ∃ m e, RoundsTo (numerator / denominator) m e ∧
      roundFraction negative numerator denominator =
        if e > 971 ∨ (e = 971 ∧ m ≥ 2 ^ 53) then .infinite negative else .finite negative m e := by
  obtain ⟨hlow, hhigh⟩ := binaryExponent_spec hnumerator h
  obtain ⟨e, he⟩ : ∃ e, e = max (binaryExponent numerator denominator - 52) (-1074) := ⟨_, rfl⟩
  have hpos := scale_pos numerator h two_pos (-e)
  have hdiv := scale_div numerator denominator two_pos (-e)
  obtain ⟨hnear, htie⟩ := abs_sub_divideToNearest_le (scale numerator denominator 2 (-e)).1 hpos
  rw [hdiv, zpow_neg, ← div_eq_mul_inv, Nat.cast_two] at hnear htie
  have hunit : (0 : ℚ) < 2 ^ e := by positivity
  refine ⟨_, e, ⟨hnear, htie, ?_, by omega, fun hlarge => ?_⟩, ?_⟩
  · rw [div_lt_iff₀ hunit]
    calc (numerator / denominator : ℚ) < 2 ^ (binaryExponent numerator denominator + 1) := hhigh
      _ ≤ 2 ^ (53 + e) := zpow_le_zpow_right₀ (by norm_num) (by omega)
      _ = 2 ^ 53 * 2 ^ e := by rw [zpow_add₀ (by norm_num), zpow_ofNat]
  · rw [le_div_iff₀ hunit]
    calc (2 : ℚ) ^ 52 * 2 ^ e = 2 ^ (52 + e) := by rw [zpow_add₀ (by norm_num), zpow_ofNat]
      _ = 2 ^ binaryExponent numerator denominator := by congr 1; omega
      _ ≤ numerator / denominator := hlow
  · rw [roundFraction, ← he]
    rfl

end Fraction

/-- The powers of ten around a positive number, told by the length of its numeral. -/
theorem natural_length_bounds {n : ℕ} (hn : n ≠ 0) :
    ∃ k, (Text.natural n).length = k + 1 ∧ 10 ^ k ≤ n ∧ n < 10 ^ (k + 1) := by
  have hle : ∀ k, 0 < k → ((Text.natural n).length ≤ k ↔ n < 10 ^ k) :=
    fun k hk => Nat.length_toDigits_le_iff (by decide) hk
  obtain ⟨k, hk⟩ := Nat.exists_eq_add_one_of_ne_zero
    (List.length_pos_iff.mpr (Text.natural_ne_nil n)).ne'
  refine ⟨k, hk, ?_, (hle (k + 1) k.succ_pos).mp hk.le⟩
  cases k with
  | zero => exact Nat.one_le_iff_ne_zero.mpr hn
  | succ k => exact not_lt.mp fun hlt => by have := (hle (k + 1) k.succ_pos).mpr hlt; omega

variable {d : Decimal}

/-- The size of what a decimal denotes. -/
theorem abs_value (d : Decimal) : |d.value| = d.coefficient * 10 ^ d.exponent := by
  have hnonneg : (0 : ℚ) ≤ d.coefficient * 10 ^ d.exponent := by positivity
  unfold value
  split
  · rw [neg_one_mul, abs_neg, abs_of_nonneg hnonneg]
  · rw [one_mul, abs_of_nonneg hnonneg]

/-- The number of digits bounds the number that a numeral denotes. -/
theorem abs_value_bounds (hc : d.coefficient ≠ 0) :
    10 ^ ((Text.natural d.coefficient).length + d.exponent - 1) ≤ |d.value| ∧
      |d.value| < 10 ^ ((Text.natural d.coefficient).length + d.exponent) := by
  obtain ⟨k, hk, hlow, hhigh⟩ := natural_length_bounds hc
  have hten : (10 : ℚ) ≠ 0 := by norm_num
  have hlow : (10 : ℚ) ^ k ≤ d.coefficient := by exact_mod_cast hlow
  have hhigh : (d.coefficient : ℚ) < 10 ^ (k + 1) := by exact_mod_cast hhigh
  rw [abs_value, hk]
  constructor
  · calc (10 : ℚ) ^ (((k + 1 : ℕ) : ℤ) + d.exponent - 1) = 10 ^ k * 10 ^ d.exponent := by
          rw [← zpow_natCast, ← zpow_add₀ hten]
          congr 1
          omega
      _ ≤ d.coefficient * 10 ^ d.exponent := by gcongr
  · calc (d.coefficient : ℚ) * 10 ^ d.exponent < 10 ^ (k + 1) * 10 ^ d.exponent := by gcongr
      _ = 10 ^ (((k + 1 : ℕ) : ℤ) + d.exponent) := by rw [← zpow_natCast, ← zpow_add₀ hten]

/-- What has more than 310 digits before the point is too great. -/
theorem le_ten_pow : (2 : ℚ) ^ 1023 ≤ 10 ^ (310 : ℤ) := by
  rw [zpow_ofNat]
  exact_mod_cast show 2 ^ 1023 ≤ 10 ^ 310 by decide +kernel

/-- What has 330 zeros behind the point is too small. -/
theorem ten_pow_le : (10 : ℚ) ^ (-330 : ℤ) ≤ 2 ^ (-1075 : ℤ) := by
  rw [zpow_neg, zpow_neg, zpow_ofNat, zpow_ofNat]
  refine inv_anti₀ (by positivity) ?_
  exact_mod_cast show 2 ^ 1075 ≤ 10 ^ 330 by decide +kernel

/-- What reading a numeral comes to: a number that is too small becomes zero, one that is too great
an infinity, and any other is rounded. -/
theorem toBinary64_cases (d : Decimal) :
    (d.toBinary64 = .finite d.negative 0 0 ∧ |d.value| < 2 ^ (-1075 : ℤ)) ∨
    (d.toBinary64 = .infinite d.negative ∧ 2 ^ 1023 ≤ |d.value|) ∨
    ∃ m e, d.toBinary64 = .finite d.negative m e ∧ RoundsTo |d.value| m e ∧
      ¬(e > 971 ∨ (e = 971 ∧ m ≥ 2 ^ 53)) := by
  have hone : (1 : ℚ) ≤ 10 := by norm_num
  by_cases hc : d.coefficient = 0
  · refine .inl ⟨by simp [toBinary64, hc], ?_⟩
    rw [abs_value, hc, Nat.cast_zero, zero_mul]
    positivity
  obtain ⟨hlow, hhigh⟩ := abs_value_bounds hc
  by_cases hsmall : (Text.natural d.coefficient).length + d.exponent < -330
  · refine .inl ⟨by simp [toBinary64, hsmall], ?_⟩
    calc |d.value| < 10 ^ ((Text.natural d.coefficient).length + d.exponent) := hhigh
      _ ≤ 10 ^ (-330 : ℤ) := zpow_le_zpow_right₀ hone hsmall.le
      _ ≤ 2 ^ (-1075 : ℤ) := ten_pow_le
  by_cases hgreat : (Text.natural d.coefficient).length + d.exponent > 310
  · refine .inr (.inl ⟨by simp [toBinary64, hc, hsmall, hgreat], ?_⟩)
    calc (2 : ℚ) ^ 1023 ≤ 10 ^ (310 : ℤ) := le_ten_pow
      _ ≤ 10 ^ ((Text.natural d.coefficient).length + d.exponent - 1) :=
        zpow_le_zpow_right₀ hone (by omega)
      _ ≤ |d.value| := hlow
  have hpos := scale_pos d.coefficient one_pos (show 0 < 10 by decide) d.exponent
  have hdiv := scale_div d.coefficient 1 (show 0 < 10 by decide) d.exponent
  rw [Nat.cast_one, div_one, Nat.cast_ofNat, ← abs_value] at hdiv
  have hround : d.toBinary64 = roundFraction d.negative (scale d.coefficient 1 10 d.exponent).1
      (scale d.coefficient 1 10 d.exponent).2 := by
    simp [toBinary64, hc, hsmall, hgreat]
  obtain ⟨m, e, hrounds, heq⟩ := exists_roundsTo d.negative
    (scale_fst_pos (Nat.pos_of_ne_zero hc) (show 0 < 10 by decide) d.exponent) hpos
  rw [hdiv] at hrounds
  rw [← hround] at heq
  by_cases hrange : e > 971 ∨ (e = 971 ∧ m ≥ 2 ^ 53)
  · rw [if_pos hrange] at heq
    exact .inr (.inl ⟨heq, hrounds.le_of_overflow hrange⟩)
  · rw [if_neg hrange] at heq
    exact .inr (.inr ⟨m, e, heq, hrounds, hrange⟩)

/-- The floating-point value of a numeral is the value nearest to the number that it denotes. -/
theorem isNearest_toBinary64 {v : ℚ} (h : d.toBinary64.value? = some v) : IsNearest d.value v := by
  have hsigned : ∀ (m : ℕ) (e : ℤ), IsNearest |d.value| (m * 2 ^ e) →
      IsNearest d.value ((if d.negative then -1 else 1) * (m * 2 ^ e)) := by
    intro m e hnearest
    rw [abs_value] at hnearest
    unfold value
    cases d.negative with
    | false => simpa using hnearest
    | true => simpa using hnearest.neg
  rcases d.toBinary64_cases with ⟨heq, hsmall⟩ | ⟨heq, -⟩ | ⟨m, e, heq, hrounds, hrange⟩
  · rw [heq] at h
    obtain rfl := Option.some.inj h
    exact hsigned 0 0 (by simpa using Binary64.isNearest_zero (by rwa [abs_abs]))
  · rw [heq] at h
    cases h
  · rw [heq] at h
    obtain rfl := Option.some.inj h
    exact hsigned m e (hrounds.isNearest hrange)

/-- A numeral without a finite value denotes a great number. -/
theorem le_abs_value_of_value?_eq_none (h : d.toBinary64.value? = none) : 2 ^ 1023 ≤ |d.value| := by
  rcases d.toBinary64_cases with ⟨heq, -⟩ | ⟨-, hgreat⟩ | ⟨m, e, heq, -⟩
  · rw [heq] at h
    cases h
  · exact hgreat
  · rw [heq] at h
    cases h

/-- Below two to the power of 52 a numeral has a natural number for its value exactly if that is the
value nearest to the number that it denotes. -/
theorem value?_toBinary64_iff {n : ℕ} (hn : n ≠ 0) (hlt : n < 2 ^ 52) :
    d.toBinary64.value? = some (n : ℚ) ↔ IsNearest d.value n := by
  refine ⟨isNearest_toBinary64, fun h => ?_⟩
  cases hvalue : d.toBinary64.value? with
  | some v => rw [(isNearest_toBinary64 hvalue).eq_natural h hn hlt]
  | none =>
    have hgreat := le_abs_value_of_value?_eq_none hvalue
    obtain ⟨hpos, hless⟩ := h.natural_range hn hlt
    have hpow : (2 : ℚ) ^ 53 ≤ 2 ^ 1023 := pow_le_pow_right₀ (by norm_num) (by decide)
    rw [abs_of_pos hpos] at hgreat
    exact absurd (hpow.trans hgreat) (not_le.mpr hless)

end Decimal

end DiceBot
