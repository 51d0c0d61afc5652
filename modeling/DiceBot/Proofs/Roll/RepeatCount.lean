import DiceBot.Proofs.Number.Pattern
import DiceBot.Roll.Limits

/-!
# Repeat counts

A floating-point repeat count is accepted exactly if it is a whole number from one to the limit, and
what is accepted is that number: neither the comparison with the limit nor the conversion to 32 bits
changes it.
-/

namespace DiceBot.RollLimits

open Binary64 (Encodes)

variable {limits : RollLimits} {count : Binary64} {n : Nat}

/-- A repeat count is accepted exactly if its value is a whole number within the limits. -/
theorem repeatCount?_eq_some_iff :
    limits.repeatCount? count = some n ↔
      count.value? = some (n : ℚ) ∧ 1 ≤ n ∧ n ≤ limits.maxRollTimes.toNat := by
  have hmax : limits.maxRollTimes.toNat < UInt32.size := limits.maxRollTimes.toNat_lt
  have hone : (Binary64.ofUInt32 1).value? = some 1 := Binary64.value?_ofUInt32 1
  simp only [repeatCount?, Option.ite_none_right_eq_some, Bool.and_eq_true, Option.some.injEq]
  constructor
  · rintro ⟨⟨⟨⟨hfinite, hwhole⟩, hlow⟩, hhigh⟩, rfl⟩
    obtain ⟨x, hx⟩ := Binary64.isFinite_iff.mp hfinite
    rw [Binary64.le_iff hone hx] at hlow
    rw [Binary64.le_iff hx (Binary64.value?_ofUInt32 _)] at hhigh
    obtain ⟨m, rfl⟩ := (Binary64.isZero_fraction_iff hx (by linarith)).mp hwhole
    rw [Nat.cast_le] at hhigh
    rw [Binary64.toNat_toUInt32 hx (by omega)]
    exact ⟨hx, by exact_mod_cast hlow, hhigh⟩
  · rintro ⟨hvalue, hlow, hhigh⟩
    refine ⟨⟨⟨⟨Binary64.isFinite_iff.mpr ⟨_, hvalue⟩, ?_⟩, ?_⟩, ?_⟩, ?_⟩
    · exact (Binary64.isZero_fraction_iff hvalue (Nat.cast_nonneg n)).mpr ⟨n, rfl⟩
    · rw [Binary64.le_iff hone hvalue]
      exact_mod_cast hlow
    · rw [Binary64.le_iff hvalue (Binary64.value?_ofUInt32 _)]
      exact_mod_cast hhigh
    · exact Binary64.toNat_toUInt32 hvalue (by omega)

theorem lt_of_le_maxRollTimes (h : n ≤ limits.maxRollTimes.toNat) : n < 2 ^ 52 :=
  Nat.lt_of_le_of_lt h (Nat.lt_trans limits.maxRollTimes.toNat_lt (by decide))

/-- An accepted repeat count lies within the limits. -/
theorem repeatCount?_range (h : limits.repeatCount? count = some n) :
    1 ≤ n ∧ n ≤ limits.maxRollTimes.toNat := (repeatCount?_eq_some_iff.mp h).2

theorem checkRepeatCount_eq_ok_iff :
    limits.checkRepeatCount count = .ok n ↔
      count.value? = some (n : ℚ) ∧ 1 ≤ n ∧ n ≤ limits.maxRollTimes.toNat := by
  rw [← repeatCount?_eq_some_iff, checkRepeatCount]
  cases limits.repeatCount? count <;> simp

/-- What is not accepted is refused for the limit. -/
theorem checkRepeatCount_eq_error_iff :
    limits.checkRepeatCount count = .error (.limit limits.maxRollTimes) ↔
      ∀ n, limits.checkRepeatCount count ≠ .ok n := by
  unfold checkRepeatCount
  cases limits.repeatCount? count <;> simp

/-- For every pattern of 64 bits and every limit: the check accepts a repeat count `n` exactly if
the pattern stands for the number `n` and `n` is one to the limit, and refuses every other pattern
for the limit. -/
theorem checkRepeatCount_exact (limits : RollLimits) (bits : UInt64) :
    (∀ n : ℕ, limits.checkRepeatCount (.ofBits bits) = .ok n ↔
      Encodes bits n ∧ 1 ≤ n ∧ n ≤ limits.maxRollTimes.toNat) ∧
    (limits.checkRepeatCount (.ofBits bits) = .error (.limit limits.maxRollTimes) ↔
      ¬∃ n : ℕ, Encodes bits n ∧ 1 ≤ n ∧ n ≤ limits.maxRollTimes.toNat) := by
  have hok : ∀ n : ℕ, limits.checkRepeatCount (.ofBits bits) = .ok n ↔
      Encodes bits n ∧ 1 ≤ n ∧ n ≤ limits.maxRollTimes.toNat := by
    intro n
    rw [checkRepeatCount_eq_ok_iff, Binary64.value?_ofBits_iff]
  refine ⟨hok, ?_⟩
  rw [checkRepeatCount_eq_error_iff, not_exists]
  exact forall_congr' fun n => not_congr (hok n)

end DiceBot.RollLimits
