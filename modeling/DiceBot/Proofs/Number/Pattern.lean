import Mathlib.Tactic.FieldSimp
import DiceBot.Proofs.Number.Value

/-!
# Patterns of 64 bits

The number that a pattern of the binary interchange format stands for, stated by its fields: a sign
bit, an exponent with a bias of 1023, and a fraction behind a leading bit that is one unless the
exponent bits are all zero. Decoding gives exactly this number, and none where the exponent bits are
all ones.
-/

namespace DiceBot.Binary64

/-- Whether a pattern is made up of one sign bit, eleven exponent bits and 52 fraction bits. -/
structure HasFields (bits : UInt64) (sign exponent fraction : Nat) : Prop where
  sign_lt : sign < 2
  exponent_lt : exponent < 2 ^ 11
  fraction_lt : fraction < 2 ^ 52
  bits_eq : bits.toNat = sign * 2 ^ 63 + exponent * 2 ^ 52 + fraction

/-- Whether a pattern stands for a number. -/
inductive Encodes (bits : UInt64) : ℚ → Prop
  | subnormal {sign fraction : Nat} (hfields : HasFields bits sign 0 fraction) :
      Encodes bits ((-1) ^ sign * (fraction / 2 ^ 52) * 2 ^ (-1022 : ℤ))
  | normal {sign exponent fraction : Nat} (hfields : HasFields bits sign exponent fraction)
      (hlow : 0 < exponent) (hhigh : exponent < 2047) :
      Encodes bits ((-1) ^ sign * (1 + fraction / 2 ^ 52) * 2 ^ ((exponent : ℤ) - 1023))

theorem hasFields (bits : UInt64) :
    HasFields bits (bits.toNat / 2 ^ 63) (bits.toNat / 2 ^ 52 % 2 ^ 11) (bits.toNat % 2 ^ 52) := by
  have hlt := bits.toNat_lt
  constructor <;> omega

/-- The fields of a pattern are the ones that decoding takes from it. -/
theorem HasFields.eq {bits : UInt64} {sign exponent fraction : Nat}
    (h : HasFields bits sign exponent fraction) :
    sign = bits.toNat / 2 ^ 63 ∧ exponent = bits.toNat / 2 ^ 52 % 2 ^ 11 ∧
      fraction = bits.toNat % 2 ^ 52 := by
  obtain ⟨hsign, hexponent, hfraction, hbits⟩ := h
  omega

theorem HasFields.ofBits_eq {bits : UInt64} {sign exponent fraction : Nat}
    (h : HasFields bits sign exponent fraction) :
    ofBits bits = if exponent = 0x7FF then
        (if fraction = 0 then .infinite (sign == 1) else .nan)
      else if exponent = 0 then .finite (sign == 1) fraction (-1074)
      else .finite (sign == 1) (2 ^ 52 + fraction) (exponent - 1075) := by
  obtain ⟨rfl, rfl, rfl⟩ := h.eq
  rfl

theorem cast_sign {sign : Nat} (h : sign < 2) :
    (if (sign == 1) = true then (-1 : ℚ) else 1) = (-1) ^ sign := by
  obtain rfl | rfl : sign = 0 ∨ sign = 1 := by omega
  · simp
  · simp

/-- A fraction behind a leading bit is a whole number of units in the last place. -/
theorem units_eq (leading fraction : ℚ) (exponent : ℤ) :
    (leading + fraction / 2 ^ 52) * 2 ^ exponent =
      (leading * 2 ^ 52 + fraction) * 2 ^ (exponent - 52) := by
  have hpow : (2 : ℚ) ^ exponent = 2 ^ 52 * 2 ^ (exponent - 52) := by
    rw [← zpow_natCast, ← zpow_add₀ (by norm_num)]
    congr 1
    omega
  rw [hpow]
  field_simp

theorem value?_subnormal {bits : UInt64} {sign fraction : Nat}
    (h : HasFields bits sign 0 fraction) :
    (ofBits bits).value? = some ((-1 : ℚ) ^ sign * (fraction / 2 ^ 52) * 2 ^ (-1022 : ℤ)) := by
  have hunits := units_eq 0 fraction (-1022)
  rw [zero_add, zero_mul, zero_add] at hunits
  rw [h.ofBits_eq, if_neg (by decide), if_pos rfl, value?, cast_sign h.sign_lt, mul_assoc, hunits]
  rfl

theorem value?_normal {bits : UInt64} {sign exponent fraction : Nat}
    (h : HasFields bits sign exponent fraction) (hlow : 0 < exponent) (hhigh : exponent < 2047) :
    (ofBits bits).value? =
      some ((-1 : ℚ) ^ sign * (1 + fraction / 2 ^ 52) * 2 ^ ((exponent : ℤ) - 1023)) := by
  have hexponent : (exponent : ℤ) - 1023 - 52 = exponent - 1075 := by omega
  rw [h.ofBits_eq, if_neg (by omega), if_neg (by omega), value?, cast_sign h.sign_lt, mul_assoc,
    units_eq, one_mul, hexponent]
  push_cast
  rfl

/-- Decoding a pattern gives the number that it stands for, if it stands for one. -/
theorem value?_ofBits_iff {bits : UInt64} {x : ℚ} :
    (ofBits bits).value? = some x ↔ Encodes bits x := by
  constructor
  · intro hx
    have h := hasFields bits
    generalize bits.toNat / 2 ^ 52 % 2 ^ 11 = exponent at h
    have hlt := h.exponent_lt
    by_cases hzero : exponent = 0
    · subst hzero
      obtain rfl := Option.some.inj ((value?_subnormal h).symm.trans hx)
      exact .subnormal h
    · by_cases hones : exponent = 2047
      · rw [h.ofBits_eq, if_pos hones] at hx
        split at hx <;> cases hx
      · have hlow : 0 < exponent := by omega
        have hhigh : exponent < 2047 := by omega
        obtain rfl := Option.some.inj ((value?_normal h hlow hhigh).symm.trans hx)
        exact .normal h hlow hhigh
  · rintro (h | ⟨h, hlow, hhigh⟩)
    · exact value?_subnormal h
    · exact value?_normal h hlow hhigh

end DiceBot.Binary64
