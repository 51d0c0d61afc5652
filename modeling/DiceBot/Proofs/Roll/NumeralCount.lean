import DiceBot.Proofs.Roll.Echo

/-!
# Repeat counts written as numerals

A repeat count that is a numeral is allowed if the floating-point value nearest to the number that
it denotes is a whole number within the limits. So the count is exact if the numeral denotes a whole
number, but a numeral that denotes a number very close to a whole one is taken for that one.
-/

namespace DiceBot.RollPlan

open Binary64 (IsNearest gapAbove gapBelow)
open Decimal (Denotes)

variable (limits : RollLimits) {numeral dice : Text} {x : ℚ}

/-- A plain word with a numeral and a separator in front of it is a plain word. -/
theorem isPlainWord_numeral (hnumeral : Denotes numeral x) (hdice : IsPlainWord dice) :
    IsPlainWord (numeral ++ '#' :: dice) := by
  have hchar := hnumeral.isNumeralChar
  refine ⟨by simp, ?_, ?_⟩
  · intro c hc
    rcases List.mem_append.mp hc with hc | hc
    · exact (hchar c hc).isBlankChar
    · rcases List.mem_cons.mp hc with rfl | hc
      · decide
      · exact hdice.not_blank c hc
  · intro hc
    rcases List.mem_append.mp hc with hc | hc
    · exact absurd (hchar _ hc) (by unfold Decimal.IsNumeralChar; decide)
    · rcases List.mem_cons.mp hc with hc | hc
      · exact absurd hc (by decide)
      · exact hdice.not_ampersand hc

/-- Numerals have no separator. -/
theorem splitsInto_numeral (hnumeral : Denotes numeral x) (hseparator : '#' ∉ dice) :
    SplitsInto (numeral ++ '#' :: dice) numeral dice := by
  refine ⟨rfl, fun hc => ?_, hseparator⟩
  exact absurd (hnumeral.isNumeralChar _ hc) (by unfold Decimal.IsNumeralChar; decide)

theorem IsPlainWord.isBlank {t : Text} (h : IsPlainWord t) : Text.isBlank t = false := by
  obtain ⟨c, hc⟩ := List.exists_mem_of_ne_nil t h.ne_nil
  exact List.all_eq_false.mpr ⟨c, hc, by simp [h.not_blank c hc]⟩

/-- The repeat count of a payload with a numeral is what is read of the numeral. -/
theorem ofPayload_numeral_eq (hnumeral : Denotes numeral x) (hdice : IsPlainWord dice)
    (hseparator : '#' ∉ dice) :
    ofPayload limits (numeral ++ '#' :: dice) =
      (readRepeatCount limits numeral).map fun times => ⟨times, dice, none⟩ := by
  have hnone : ∀ r ∈ (none : Option Text), r ≠ [] ∧ ∀ c ∈ r, Text.isBlankChar c = false :=
    fun r hr => by cases hr
  have hwords : ofPayload limits (numeral ++ '#' :: dice) = ofExpression limits _ none :=
    ofPayload_withReason (isPlainWord_numeral hnumeral hdice) hnone
  rw [hwords, (splitsInto_numeral hnumeral hseparator).ofExpression_eq, orIfBlank, hdice.isBlank]
  rfl

/-- The plan of a numeral with dice behind it. It rolls as often as the whole number within the
limits that is the floating-point value nearest to what the numeral denotes; if there is none, the
request fails for the limit. The numbers that a whole number is nearest to lie at most half the
distance to the next value away from it. -/
theorem ofPayload_numeral (hnumeral : Denotes numeral x) (hdice : IsPlainWord dice)
    (hseparator : '#' ∉ dice) :
    (∀ plan, ofPayload limits (numeral ++ '#' :: dice) = .ok plan ↔
      ∃ n : ℕ, IsNearest x n ∧ 1 ≤ n ∧ n ≤ limits.maxRollTimes.toNat ∧ plan = ⟨n, dice, none⟩) ∧
    (ofPayload limits (numeral ++ '#' :: dice) = .error (.limit limits.maxRollTimes) ↔
      ¬∃ n : ℕ, IsNearest x n ∧ 1 ≤ n ∧ n ≤ limits.maxRollTimes.toNat) ∧
    ∀ n : ℕ, 1 ≤ n → n ≤ limits.maxRollTimes.toNat →
      (IsNearest x n ↔ n - gapBelow n / 2 ≤ x ∧ x ≤ n + gapAbove n / 2) := by
  have hcount : ∀ n, readRepeatCount limits numeral = .ok n ↔
      IsNearest x n ∧ 1 ≤ n ∧ n ≤ limits.maxRollTimes.toNat :=
    fun n => readRepeatCount_eq_ok_iff.trans (RollLimits.isCount_iff hnumeral)
  rw [ofPayload_numeral_eq limits hnumeral hdice hseparator]
  refine ⟨fun plan => ?_, ?_, fun n hlow hhigh => ?_⟩
  · constructor
    · intro h
      cases hread : readRepeatCount limits numeral with
      | error e =>
        rw [hread] at h
        cases h
      | ok n =>
        rw [hread] at h
        obtain ⟨hnearest, hlow, hhigh⟩ := (hcount n).mp hread
        exact ⟨n, hnearest, hlow, hhigh, (Except.ok.inj h).symm⟩
    · rintro ⟨n, hnearest, hlow, hhigh, rfl⟩
      rw [(hcount n).mpr ⟨hnearest, hlow, hhigh⟩]
      rfl
  · constructor
    · rintro h ⟨n, hn⟩
      rw [(hcount n).mpr hn] at h
      cases h
    · intro hnone
      rw [readRepeatCount_eq_error fun n hn => hnone ⟨n, (RollLimits.isCount_iff hnumeral).mp hn⟩]
      rfl
  · exact Binary64.isNearest_natural_iff (by omega) (RollLimits.lt_of_le_maxRollTimes hhigh)

/-- A numeral with a point and an exponent, just below ten. -/
theorem ofPayload_numeral_just_below_ten :
    let numeral := "+0.99999999999999999999E1".toList
    let dice := "2D6".toList
    Denotes numeral (10 - 1 / 10 ^ 19) ∧ IsPlainWord dice ∧ '#' ∉ dice ∧
      ofPayload .standard (numeral ++ '#' :: dice) = .ok ⟨10, dice, none⟩ := by
  intro numeral dice
  have hdigits : Text.IsNumeral 10 (['0'] ++ "99999999999999999999".toList) 99999999999999999999 :=
    Text.natural?_eq_some_iff.mp (by decide +kernel)
  have hmantissa : Decimal.IsMantissa "0.99999999999999999999".toList
      ((99999999999999999999 : ℕ) / 10 ^ 20) := .pointed hdigits
  have hexponent : Decimal.IsExponent "E1".toList 1 :=
    .present (.inr rfl) .absent (Text.natural?_eq_some_iff.mp (by decide))
  have hnumeral : Denotes numeral (10 - 1 / 10 ^ 19) := by
    convert Denotes.intro .plus hmantissa hexponent using 1
    · rfl
    · norm_num
  have hdice : IsPlainWord dice := isPlainWord_of_all (by decide) (by decide)
  have hseparator : '#' ∉ dice := by decide
  obtain ⟨hok, -, hnearest⟩ := ofPayload_numeral .standard hnumeral hdice hseparator
  have hlog : Nat.log2 10 = 3 := by decide
  have hten : IsNearest (10 - 1 / 10 ^ 19) (10 : ℕ) := by
    rw [hnearest 10 (by decide) (by decide), gapBelow, gapAbove, hlog]
    norm_num
  exact ⟨hnumeral, hdice, hseparator, (hok _).mpr ⟨10, hten, by decide, by decide, rfl⟩⟩

/-- Three rolls, although what the numeral denotes is no whole number. -/
theorem ofPayload_numeral_not_whole :
    let numeral := "3.0000000000000000000001".toList
    let dice := "d6".toList
    let x : ℚ := 3 + 1 / 10 ^ 22
    Denotes numeral x ∧ (∀ n : ℕ, x ≠ n) ∧ IsPlainWord dice ∧ '#' ∉ dice ∧
      ofPayload .standard (numeral ++ '#' :: dice) = .ok ⟨3, dice, none⟩ := by
  intro numeral dice x
  have hdigits :
      Text.IsNumeral 10 (['3'] ++ "0000000000000000000001".toList) 30000000000000000000001 :=
    Text.natural?_eq_some_iff.mp (by decide +kernel)
  have hmantissa : Decimal.IsMantissa numeral ((30000000000000000000001 : ℕ) / 10 ^ 22) :=
    .pointed hdigits
  have hnumeral : Denotes numeral x := by
    convert Denotes.intro .absent hmantissa .absent using 1
    · exact (List.append_nil numeral).symm
    · norm_num [x]
  have hdice : IsPlainWord dice := isPlainWord_of_all (by decide) (by decide)
  refine ⟨hnumeral, fun n hn => ?_, hdice, by decide, by decide +kernel⟩
  have hlow : (3 : ℚ) < n := by rw [← hn]; norm_num [x]
  have hhigh : (n : ℚ) < 4 := by rw [← hn]; norm_num [x]
  have hthree : 3 < n := by exact_mod_cast hlow
  have hfour : n < 4 := by exact_mod_cast hhigh
  omega

end DiceBot.RollPlan
