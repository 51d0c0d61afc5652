import Mathlib.Algebra.Order.Field.Power
import Mathlib.Algebra.Order.Field.Rat
import Mathlib.Tactic.Linarith
import Mathlib.Tactic.Positivity
import Mathlib.Tactic.Ring
import DiceBot.Number.Decimal

/-!
# Values of floating-point numbers

A finite value of the 64-bit format is a rational number. Whether it is a whole one is decided
exactly, comparing values is comparing the numbers, and a natural number of 32 bits is converted to
itself.
-/

namespace DiceBot.Binary64

/-- The rational number that a finite value is. -/
def value? : Binary64 → Option ℚ
  | .finite negative significand exponent =>
    some ((if negative then -1 else 1) * (significand * 2 ^ exponent))
  | _ => none

theorem isFinite_iff {a : Binary64} : a.isFinite = true ↔ ∃ x, a.value? = some x := by
  cases a <;> simp [isFinite, value?]

@[simp] theorem value?_ofUInt32 (n : UInt32) : (ofUInt32 n).value? = some (n.toNat : ℚ) := by
  simp [ofUInt32, value?]

/-- A significand and an exponent make up a natural number exactly if nothing is left of the
significand when the number is taken out. -/
theorem remainder_and_wholePart_iff (significand : Nat) (exponent : Int) (n : Nat) :
    (remainder significand exponent = 0 ∧ wholePart significand exponent = n) ↔
      (significand : ℚ) * 2 ^ exponent = n := by
  cases exponent with
  | ofNat k =>
    simp only [remainder, wholePart, true_and, Int.ofNat_eq_natCast, zpow_natCast]
    exact_mod_cast Iff.rfl
  | negSucc k =>
    have hpos : 0 < Nat.pow 2 (k + 1) := Nat.pow_pos (by decide)
    have hne : (2 : ℚ) ^ (k + 1) ≠ 0 := by positivity
    have hmul : (significand : ℚ) * 2 ^ Int.negSucc k = n ↔
        significand = n * Nat.pow 2 (k + 1) := by
      rw [zpow_negSucc, mul_inv_eq_iff_eq_mul₀ hne]
      exact_mod_cast Iff.rfl
    rw [hmul]
    simp only [remainder, wholePart]
    constructor
    · rintro ⟨hmod, rfl⟩
      rw [Nat.div_mul_cancel (Nat.dvd_of_mod_eq_zero hmod)]
    · rintro rfl
      exact ⟨Nat.mul_mod_left n _, Nat.mul_div_cancel n hpos⟩

theorem magnitudeLe_iff (significand : Nat) (exponent : Int) (significand' : Nat)
    (exponent' : Int) :
    magnitudeLe significand exponent significand' exponent' = true ↔
      (significand : ℚ) * 2 ^ exponent ≤ significand' * 2 ^ exponent' := by
  have hpos : ∀ k : Int, (0 : ℚ) < 2 ^ k := fun k => by positivity
  unfold magnitudeLe
  split
  · next k hk =>
    rw [Int.ofNat_eq_natCast] at hk
    have hexponent : exponent = k + exponent' := by omega
    rw [Nat.ble_eq, hexponent, zpow_add₀ (by norm_num), ← mul_assoc, mul_le_mul_iff_left₀ (hpos _),
      zpow_natCast]
    exact_mod_cast Iff.rfl
  · next k hk =>
    rw [Int.negSucc_eq] at hk
    have hexponent : exponent' = (k + 1 : Nat) + exponent := by omega
    rw [Nat.ble_eq, hexponent, zpow_add₀ (by norm_num), ← mul_assoc, mul_le_mul_iff_left₀ (hpos _),
      zpow_natCast]
    exact_mod_cast Iff.rfl

theorem value_eq_zero_iff (significand : Nat) (exponent : Int) :
    (significand : ℚ) * 2 ^ exponent = 0 ↔ significand = 0 := by
  have hne : (2 : ℚ) ^ exponent ≠ 0 := by positivity
  simp [hne]

/-- Comparing values is comparing the numbers that they are. -/
theorem le_iff {a b : Binary64} {x y : ℚ} (ha : a.value? = some x) (hb : b.value? = some y) :
    a.le b = true ↔ x ≤ y := by
  cases a with
  | nan => cases ha
  | infinite negative => cases ha
  | finite negative m e =>
    cases b with
    | nan => cases hb
    | infinite negative => cases hb
    | finite negative' m' e' =>
      simp only [value?, Option.some.injEq] at ha hb
      have hm : (0 : ℚ) ≤ m * 2 ^ e := by positivity
      have hm' : (0 : ℚ) ≤ m' * 2 ^ e' := by positivity
      rw [← ha, ← hb]
      cases negative <;> cases negative'
      · simp [le, magnitudeLe_iff]
      · simp only [le, Bool.and_eq_true, beq_iff_eq, Bool.false_eq_true, if_false, if_true, one_mul,
          ← value_eq_zero_iff m e, ← value_eq_zero_iff m' e']
        constructor
        · rintro ⟨hzero, hzero'⟩
          rw [hzero, hzero', mul_zero]
        · intro hle
          exact ⟨by linarith, by linarith⟩
      · simp only [le, Bool.false_eq_true, if_false, if_true, one_mul, true_iff]
        linarith
      · simp [le, magnitudeLe_iff]

/-- The sign of a value that is not negative does not count. -/
theorem nonneg_value {negative : Bool} {significand : Nat} {exponent : Int} {x : ℚ}
    (ha : value? (.finite negative significand exponent) = some x) (hx : 0 ≤ x) :
    (significand : ℚ) * 2 ^ exponent = x ∧ (negative = true → significand = 0) := by
  simp only [value?, Option.some.injEq] at ha
  have hmagnitude : (0 : ℚ) ≤ significand * 2 ^ exponent := by positivity
  cases negative with
  | false => exact ⟨by simpa using ha, fun h => by cases h⟩
  | true =>
    simp only [if_true] at ha
    have hzero : (significand : ℚ) * 2 ^ exponent = 0 := by linarith
    exact ⟨by linarith, fun _ => (value_eq_zero_iff significand exponent).mp hzero⟩

/-- Nothing is behind the point exactly if the value, if it is not negative, is a natural number. -/
theorem isZero_fraction_iff {a : Binary64} {x : ℚ} (ha : a.value? = some x) (hx : 0 ≤ x) :
    a.fraction.isZero = true ↔ ∃ n : ℕ, x = n := by
  cases a with
  | nan => cases ha
  | infinite negative => cases ha
  | finite negative significand exponent =>
    obtain ⟨hvalue, -⟩ := nonneg_value ha hx
    simp only [fraction, isZero, beq_iff_eq, ← hvalue, ← remainder_and_wholePart_iff]
    constructor
    · exact fun hzero => ⟨_, hzero, rfl⟩
    · rintro ⟨n, hzero, -⟩
      exact hzero

/-- A natural number of 32 bits stays what it is. -/
theorem toNat_toUInt32 {a : Binary64} {n : ℕ} (ha : a.value? = some (n : ℚ))
    (hn : n < UInt32.size) : a.toUInt32.toNat = n := by
  cases a with
  | nan => cases ha
  | infinite negative => cases ha
  | finite negative significand exponent =>
    obtain ⟨hvalue, hsign⟩ := nonneg_value ha (Nat.cast_nonneg n)
    cases negative with
    | false =>
      obtain ⟨-, hwhole⟩ := (remainder_and_wholePart_iff significand exponent n).mpr hvalue
      have hfits : wholePart significand exponent < UInt32.size := by rwa [hwhole]
      rw [toUInt32, dif_pos hfits, UInt32.toNat_ofNatLT, hwhole]
    | true =>
      rw [hsign rfl] at hvalue
      have hzero : n = 0 := by simpa [eq_comm] using hvalue
      rw [hzero]
      rfl

end DiceBot.Binary64
