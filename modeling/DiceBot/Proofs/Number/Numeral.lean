import DiceBot.Proofs.Number.Rounding
import DiceBot.Proofs.Text.Digits
import DiceBot.Proofs.Text.Words

/-!
# Numerals and the numbers they denote

The numbers that numerals denote are stated by the form of the numerals: a sign, digits with a point
among or around them, and an exponent. Every numeral is read as the number that it denotes.
-/

namespace DiceBot

namespace Decimal

open Text (IsNumeral)

/-- Whether a text is an optional sign; the flag tells whether it is a minus sign. -/
inductive IsSign : Text → Bool → Prop
  | absent : IsSign [] false
  | plus : IsSign ['+'] false
  | minus : IsSign ['-'] true

/-- Whether digits with an optional point denote a number. There is a digit on at least one side of
the point. -/
inductive IsMantissa : Text → ℚ → Prop
  | whole {digits : Text} {n : ℕ} (h : IsNumeral 10 digits n) : IsMantissa digits n
  | pointed {whole fraction : Text} {n : ℕ} (h : IsNumeral 10 (whole ++ fraction) n) :
      IsMantissa (whole ++ '.' :: fraction) (n / 10 ^ fraction.length)

/-- Whether a text is an optional exponent. -/
inductive IsExponent : Text → ℤ → Prop
  | absent : IsExponent [] 0
  | present {letter : Char} {sign digits : Text} {negative : Bool} {n : ℕ}
      (hletter : letter = 'e' ∨ letter = 'E') (hsign : IsSign sign negative)
      (h : IsNumeral 10 digits n) :
      IsExponent (letter :: (sign ++ digits)) (if negative then -n else n)

/-- Whether a text is a numeral that denotes a number. -/
inductive Denotes : Text → ℚ → Prop
  | intro {sign mantissa exponent : Text} {negative : Bool} {x : ℚ} {k : ℤ}
      (hsign : IsSign sign negative) (hmantissa : IsMantissa mantissa x)
      (hexponent : IsExponent exponent k) :
      Denotes (sign ++ (mantissa ++ exponent)) ((if negative then -1 else 1) * (x * 10 ^ k))

/-- Whether a character may stand in a numeral. -/
def IsNumeralChar (c : Char) : Prop := c.isDigit = true ∨ c ∈ ['+', '-', '.', 'e', 'E']

/-- A sign is read off if none follows it. -/
theorem IsSign.readSign_eq {sign rest : Text} {negative : Bool} (h : IsSign sign negative)
    (hrest : ∀ c ∈ rest.head?, c ≠ '+' ∧ c ≠ '-') : readSign (sign ++ rest) = (negative, rest) := by
  cases h with
  | absent =>
    rw [List.nil_append]
    unfold readSign
    split
    · exact absurd rfl (hrest '-' rfl).2
    · exact absurd rfl (hrest '+' rfl).1
    · rfl
  | plus => rfl
  | minus => rfl

/-- No digit is a sign. -/
theorem ne_sign_of_isDigit {c : Char} (hc : c.isDigit = true) : c ≠ '+' ∧ c ≠ '-' := by
  constructor <;> rintro rfl <;> exact absurd hc (by decide)

namespace IsExponent

variable {exponent : Text} {k : ℤ}

/-- An exponent is read as the number that it denotes. -/
theorem readExponent?_eq (h : IsExponent exponent k) : readExponent? exponent = some k := by
  cases h with
  | absent => rfl
  | @present letter sign digits negative n hletter hsign h =>
    have hhead : ∀ c ∈ digits.head?, c ≠ '+' ∧ c ≠ '-' :=
      fun c hc => ne_sign_of_isDigit (h.isDigit c (List.mem_of_mem_head? hc))
    simp [readExponent?, hletter, hsign.readSign_eq hhead, Text.natural?_eq_some_iff.mpr h]

/-- An exponent begins with neither a digit nor a point. -/
theorem head (h : IsExponent exponent k) : ∀ c ∈ exponent.head?, c.isDigit = false ∧ c ≠ '.' := by
  cases h with
  | absent =>
    rintro c ⟨⟩
  | present hletter hsign h =>
    rintro c ⟨⟩
    rcases hletter with rfl | rfl <;> decide

end IsExponent

/-- Without a point there is no fraction. -/
theorem readFraction_of_head {t : Text} (h : ∀ c ∈ t.head?, c ≠ '.') :
    readFraction t = ([], t) := by
  unfold readFraction
  split
  · exact absurd rfl (h '.' rfl)
  · rfl

/-- What is read of digits with an optional point. -/
theorem IsMantissa.exists_read {mantissa : Text} {x : ℚ} (h : IsMantissa mantissa x) :
    ∃ whole fraction n, IsNumeral 10 (whole ++ fraction) n ∧ x = n / 10 ^ fraction.length ∧
      ∀ rest : Text, (∀ c ∈ rest.head?, c.isDigit = false ∧ c ≠ '.') →
        (mantissa ++ rest).takeWhile Char.isDigit = whole ∧
        readFraction ((mantissa ++ rest).dropWhile Char.isDigit) = (fraction, rest) := by
  cases h with
  | @whole digits n h =>
    refine ⟨mantissa, [], n, by rwa [List.append_nil], by simp, fun rest hrest => ?_⟩
    obtain ⟨htake, hdrop⟩ :=
      Text.takeWhile_dropWhile_append h.isDigit fun c hc => (hrest c hc).1
    exact ⟨htake, by rw [hdrop, readFraction_of_head fun c hc => (hrest c hc).2]⟩
  | @pointed whole fraction n h =>
    refine ⟨whole, fraction, n, h, rfl, fun rest hrest => ?_⟩
    have hpoint : ∀ c ∈ ('.' :: (fraction ++ rest)).head?, c.isDigit = false := by
      rintro c ⟨⟩
      decide
    obtain ⟨htake, hdrop⟩ := Text.takeWhile_dropWhile_append
      (fun c hc => h.isDigit c (List.mem_append_left _ hc)) hpoint
    obtain ⟨htake', hdrop'⟩ := Text.takeWhile_dropWhile_append
      (fun c hc => h.isDigit c (List.mem_append_right _ hc)) fun c hc => (hrest c hc).1
    rw [List.append_assoc, List.cons_append, htake, hdrop, readFraction, htake', hdrop']
    exact ⟨rfl, rfl⟩

/-- A mantissa is made of digits and a point. -/
theorem IsMantissa.isDigit_or_eq {mantissa : Text} {x : ℚ} (h : IsMantissa mantissa x) :
    ∀ c ∈ mantissa, c.isDigit = true ∨ c = '.' := by
  cases h with
  | whole h => exact fun c hc => .inl (h.isDigit c hc)
  | pointed h =>
    intro c hc
    rcases List.mem_append.mp hc with hc | hc
    · exact .inl (h.isDigit c (List.mem_append_left _ hc))
    · rcases List.mem_cons.mp hc with rfl | hc
      · exact .inr rfl
      · exact .inl (h.isDigit c (List.mem_append_right _ hc))

/-- A mantissa is not empty. -/
theorem IsMantissa.ne_nil {mantissa : Text} {x : ℚ} (h : IsMantissa mantissa x) :
    mantissa ≠ [] := by
  cases h with
  | whole h => exact h.ne_nil
  | pointed h => exact List.append_ne_nil_of_right_ne_nil _ (List.cons_ne_nil _ _)

/-- A mantissa does not begin with a sign. -/
theorem IsMantissa.head {mantissa : Text} {x : ℚ} (h : IsMantissa mantissa x) (rest : Text) :
    ∀ c ∈ (mantissa ++ rest).head?, c ≠ '+' ∧ c ≠ '-' := by
  intro c hc
  rw [List.head?_append_of_ne_nil _ h.ne_nil] at hc
  rcases h.isDigit_or_eq c (List.mem_of_mem_head? hc) with hdigit | rfl
  · exact ne_sign_of_isDigit hdigit
  · decide

/-- A numeral is read as the number that it denotes. -/
theorem Denotes.exists_read? {t : Text} {x : ℚ} (h : Denotes t x) :
    ∃ d, read? t = some d ∧ d.value = x := by
  obtain ⟨hsign, hmantissa, hexponent⟩ := h
  rename_i sign mantissa exponent negative x k
  obtain ⟨whole, fraction, n, hn, rfl, hread⟩ := hmantissa.exists_read
  obtain ⟨htake, hfraction⟩ := hread exponent hexponent.head
  have hten : (10 : ℚ) ≠ 0 := by norm_num
  refine ⟨⟨negative, n, k - fraction.length⟩, ?_, ?_⟩
  · simp only [read?, hsign.readSign_eq (hmantissa.head exponent), htake, hfraction,
      Text.natural?_eq_some_iff.mpr hn, hexponent.readExponent?_eq]
  · rw [value, zpow_sub₀ hten, zpow_natCast, mul_div_assoc', div_mul_eq_mul_div]

/-- What is read off as a sign is one, or nothing. -/
theorem exists_isSign {t unsigned : Text} {negative : Bool}
    (h : readSign t = (negative, unsigned)) :
    ∃ sign, t = sign ++ unsigned ∧ IsSign sign negative := by
  unfold readSign at h
  split at h
  · obtain ⟨rfl, rfl⟩ := Prod.mk.inj h
    exact ⟨['-'], rfl, .minus⟩
  · obtain ⟨rfl, rfl⟩ := Prod.mk.inj h
    exact ⟨['+'], rfl, .plus⟩
  · obtain ⟨rfl, rfl⟩ := Prod.mk.inj h
    exact ⟨[], rfl, .absent⟩

/-- What is read as an exponent is one. -/
theorem isExponent_of_readExponent? {exponent : Text} {k : ℤ}
    (h : readExponent? exponent = some k) : IsExponent exponent k := by
  cases exponent with
  | nil =>
    obtain rfl := Option.some.inj h
    exact .absent
  | cons letter rest =>
    obtain ⟨negative, digits, hsplit⟩ : ∃ negative digits, readSign rest = (negative, digits) :=
      ⟨_, _, rfl⟩
    simp only [readExponent?, hsplit, Option.ite_none_right_eq_some, Option.map_eq_some_iff,
      Option.bind_eq_bind, Option.bind_eq_some_iff, Option.pure_def, Option.some.injEq] at h
    obtain ⟨hletter, _, ⟨n, hn, rfl⟩, rfl⟩ := h
    obtain ⟨sign, rfl, hsign⟩ := exists_isSign hsplit
    exact .present hletter hsign (Text.natural?_eq_some_iff.mp hn)

/-- What is read as digits with an optional point is a mantissa. -/
theorem isMantissa_of_natural? {t rest fraction : Text} {n : ℕ}
    (hread : readFraction (t.dropWhile Char.isDigit) = (fraction, rest))
    (hn : Text.natural? (t.takeWhile Char.isDigit ++ fraction) = some n) :
    ∃ mantissa, t = mantissa ++ rest ∧ IsMantissa mantissa (n / 10 ^ fraction.length) := by
  rw [Text.natural?_eq_some_iff] at hn
  have ht := List.takeWhile_append_dropWhile (p := Char.isDigit) (l := t)
  unfold readFraction at hread
  split at hread
  · next after hpoint =>
    obtain ⟨rfl, rfl⟩ := Prod.mk.inj hread
    refine ⟨_, ?_, .pointed hn⟩
    rw [List.append_assoc, List.cons_append, List.takeWhile_append_dropWhile, ← hpoint, ht]
  · obtain ⟨rfl, rfl⟩ := Prod.mk.inj hread
    rw [List.append_nil] at hn
    exact ⟨_, ht.symm, by simpa using IsMantissa.whole hn⟩

/-- Exactly the numerals are read, each as the number that it denotes. -/
theorem exists_read?_iff {t : Text} {x : ℚ} :
    (∃ d, read? t = some d ∧ d.value = x) ↔ Denotes t x := by
  refine ⟨?_, Denotes.exists_read?⟩
  rintro ⟨d, hread, rfl⟩
  have hten : (10 : ℚ) ≠ 0 := by norm_num
  obtain ⟨negative, unsigned, hsplit⟩ : ∃ negative unsigned, readSign t = (negative, unsigned) :=
    ⟨_, _, rfl⟩
  obtain ⟨fraction, rest, hfraction⟩ :
      ∃ fraction rest, readFraction (unsigned.dropWhile Char.isDigit) = (fraction, rest) :=
    ⟨_, _, rfl⟩
  simp only [read?, hsplit, hfraction] at hread
  split at hread
  · next n k hn hk =>
    obtain rfl := Option.some.inj hread
    obtain ⟨sign, rfl, hsign⟩ := exists_isSign hsplit
    obtain ⟨mantissa, rfl, hmantissa⟩ := isMantissa_of_natural? hfraction hn
    have hdenotes := Denotes.intro hsign hmantissa (isExponent_of_readExponent? hk)
    rwa [value, zpow_sub₀ hten, zpow_natCast, mul_div_assoc', ← div_mul_eq_mul_div]
  · cases hread

/-- A numeral of digits alone denotes their value. -/
theorem denotes_natural (n : ℕ) : Denotes (Text.natural n) n := by
  have hdigits := Text.natural?_eq_some_iff.mp (Text.natural?_natural n)
  simpa using Denotes.intro .absent (.whole hdigits) .absent

/-- The characters of a sign may stand in a numeral. -/
theorem IsSign.isNumeralChar {sign : Text} {negative : Bool} (h : IsSign sign negative) :
    ∀ c ∈ sign, IsNumeralChar c := by
  cases h <;> simp [IsNumeralChar]

/-- A numeral is made of characters that may stand in one. -/
theorem Denotes.isNumeralChar {t : Text} {x : ℚ} (h : Denotes t x) : ∀ c ∈ t, IsNumeralChar c := by
  obtain ⟨hsign, hmantissa, hexponent⟩ := h
  intro c hc
  simp only [List.mem_append] at hc
  rcases hc with hc | hc | hc
  · exact hsign.isNumeralChar c hc
  · rcases hmantissa.isDigit_or_eq c hc with hdigit | rfl
    · exact .inl hdigit
    · exact .inr (by decide)
  · cases hexponent with
    | absent => cases hc
    | present hletter hsign h =>
      simp only [List.mem_cons, List.mem_append] at hc
      rcases hc with rfl | hc | hc
      · rcases hletter with rfl | rfl <;> exact .inr (by decide)
      · exact hsign.isNumeralChar c hc
      · exact .inl (h.isDigit c hc)

/-- None of these is blank. -/
theorem IsNumeralChar.isBlankChar {c : Char} (h : IsNumeralChar c) :
    Text.isBlankChar c = false := by
  have hmarks : ['+', '-', '.', 'e', 'E'].all (fun c => !Text.isBlankChar c) = true := by decide
  rcases h with hdigit | hmem
  · exact Text.isBlankChar_of_isDigit hdigit
  · simpa using List.all_eq_true.mp hmarks c hmem

end Decimal

/-- Below two to the power of 52 a numeral has a natural number for its floating-point value exactly
if that is the value nearest to the number that it denotes. -/
theorem Binary64.value?_ofText?_iff {t : Text} {x : ℚ} (h : Decimal.Denotes t x) {n : ℕ}
    (hn : n ≠ 0) (hlt : n < 2 ^ 52) :
    (∃ a, ofText? t = some a ∧ a.value? = some (n : ℚ)) ↔ IsNearest x n := by
  obtain ⟨d, hread, rfl⟩ := h.exists_read?
  simp [ofText?, hread, Decimal.value?_toBinary64_iff hn hlt]

end DiceBot
