import Mathlib.Data.List.Basic
import Mathlib.Data.List.Induction
import DiceBot.Proofs.Text.Numeral
import DiceBot.Text.Markup

/-!
# Digits and their numbers

What number a run of digits denotes, stated digit by digit from the left for any base up to sixteen.
The two readers of digits accept exactly the numerals of their base, whatever their length and
however many zeros they begin with. Decimal digits of other scripts denote numbers in the same way,
but the readers do not accept them.
-/

namespace DiceBot.Text

/-- Whether a character is the digit of a value in a base up to sixteen; letters in either case. -/
def IsDigitOf (base : Nat) (c : Char) (value : Nat) : Prop :=
  value < base ∧ (c = value.digitChar ∨ c = value.digitChar.toUpper)

/-- Whether a text of one or more digits denotes a number. -/
inductive IsNumeral (base : Nat) : Text → Nat → Prop
  | digit {c : Char} {value : Nat} (hc : IsDigitOf base c value) : IsNumeral base [c] value
  | append {digits : Text} {n : Nat} {c : Char} {value : Nat} (hdigits : IsNumeral base digits n)
      (hc : IsDigitOf base c value) : IsNumeral base (digits ++ [c]) (base * n + value)

/-- The scalar values of the digit for a value and of its capital. -/
theorem toNat_digitChar {value : Nat} (h : value < 16) :
    value.digitChar.toNat = (if value < 10 then 48 + value else 87 + value) ∧
      value.digitChar.toUpper.toNat = if value < 10 then 48 + value else 55 + value := by
  decide +revert

/-- Where the digits lie among the code points. -/
theorem isDigitOf_iff {base : Nat} (hbase : base ≤ 16) {c : Char} {value : Nat} :
    IsDigitOf base c value ↔ value < base ∧
      ((value < 10 ∧ c.toNat = 48 + value) ∨
        (10 ≤ value ∧ (c.toNat = 87 + value ∨ c.toNat = 55 + value))) := by
  unfold IsDigitOf
  refine and_congr_right fun hvalue => ?_
  obtain ⟨hsmall, hcapital⟩ := toNat_digitChar (Nat.lt_of_lt_of_le hvalue hbase)
  rw [← Char.toNat_inj, ← Char.toNat_inj, hsmall, hcapital]
  split <;> omega

/-- The digits of base ten. -/
theorem isDigitOf_ten_iff {c : Char} {value : Nat} :
    IsDigitOf 10 c value ↔ c.isDigit = true ∧ value = c.toNat - 48 := by
  rw [isDigitOf_iff (by decide), isDigit_iff]
  omega

/-- Reading a digit in base sixteen finds its value. -/
theorem hexDigit?_eq_some_iff {c : Char} {value : Nat} :
    hexDigit? c = some value ↔ IsDigitOf 16 c value := by
  simp only [isDigitOf_iff (Nat.le_refl 16), hexDigit?, isDigit_iff, Bool.and_eq_true, Nat.ble_eq,
    Char.reduceToNat]
  split
  · rw [Option.some.injEq]
    omega
  · split
    · rw [Option.some.injEq]
      omega
    · split
      · rw [Option.some.injEq]
        omega
      · simp only [reduceCtorEq, false_iff]
        omega

namespace IsNumeral

variable {base n : Nat} {digits : Text}

theorem ne_nil (h : IsNumeral base digits n) : digits ≠ [] := by
  cases h with
  | digit hc => exact List.cons_ne_nil _ _
  | append hdigits hc => simp

/-- A numeral is made of the digits of its base. -/
theorem isDigitOf (h : IsNumeral base digits n) :
    ∀ c ∈ digits, ∃ value, IsDigitOf base c value := by
  induction h with
  | digit hc =>
    intro c hmem
    rw [List.mem_singleton.mp hmem]
    exact ⟨_, hc⟩
  | append hdigits hc ih =>
    intro c hmem
    rcases List.mem_append.mp hmem with hmem | hmem
    · exact ih c hmem
    · rw [List.mem_singleton.mp hmem]
      exact ⟨_, hc⟩

/-- In base ten these are the ten digits. -/
theorem isDigit (h : IsNumeral 10 digits n) : ∀ c ∈ digits, c.isDigit = true := by
  intro c hmem
  obtain ⟨value, hc⟩ := h.isDigitOf c hmem
  exact (isDigitOf_ten_iff.mp hc).1

/-- The number of a numeral in base ten, as a fold over its digits. -/
theorem ofDigitChars_eq (h : IsNumeral 10 digits n) : Nat.ofDigitChars 10 digits 0 = n := by
  induction h with
  | digit hc =>
    rw [(isDigitOf_ten_iff.mp hc).2]
    simp [Nat.ofDigitChars_cons]
  | append hdigits hc ih =>
    rw [Nat.ofDigitChars_append, ih, (isDigitOf_ten_iff.mp hc).2]
    simp [Nat.ofDigitChars_cons]

/-- The number of a numeral in base sixteen, as a fold over the values of its digits. -/
theorem hexDigits_eq (h : IsNumeral 16 digits n) :
    ∃ values, digits.mapM hexDigit? = some values ∧ values.foldl (16 * · + ·) 0 = n := by
  induction h with
  | @digit c value hc =>
    refine ⟨[value], ?_, ?_⟩
    · simp [hexDigit?_eq_some_iff.mpr hc]
    · simp
  | @append digits n c value hdigits hc ih =>
    obtain ⟨values, hvalues, rfl⟩ := ih
    refine ⟨values ++ [value], ?_, ?_⟩
    · simp [List.mapM_append, hvalues, hexDigit?_eq_some_iff.mpr hc]
    · simp [List.foldl_append]

end IsNumeral

/-- Decimal digits denote the number that is added up from them. -/
theorem isNumeral_ofDigitChars {digits : Text} (hne : digits ≠ [])
    (h : ∀ c ∈ digits, c.isDigit = true) : IsNumeral 10 digits (Nat.ofDigitChars 10 digits 0) := by
  induction digits using List.reverseRecOn with
  | nil => exact absurd rfl hne
  | append_singleton digits c ih =>
    have hc : IsDigitOf 10 c (c.toNat - 48) := isDigitOf_ten_iff.mpr ⟨h c (by simp), rfl⟩
    cases digits with
    | nil => simpa [Nat.ofDigitChars_cons] using IsNumeral.digit hc
    | cons d digits =>
      have hdigits := ih (List.cons_ne_nil d digits) fun b hb => h b (List.mem_append_left _ hb)
      rw [Nat.ofDigitChars_append]
      simpa [Nat.ofDigitChars_cons] using hdigits.append hc

/-- Reading in base ten finds the numerals and their numbers. -/
theorem natural?_eq_some_iff {t : Text} {n : Nat} : natural? t = some n ↔ IsNumeral 10 t n := by
  constructor
  · intro h
    simp only [natural?, Option.ite_none_left_eq_some, Bool.or_eq_true, Bool.not_eq_true', not_or,
      List.isEmpty_iff, Bool.not_eq_false, List.all_eq_true, Option.some.injEq] at h
    obtain ⟨⟨hne, hall⟩, rfl⟩ := h
    exact isNumeral_ofDigitChars hne hall
  · intro h
    have hall : t.all Char.isDigit = true := List.all_eq_true.mpr h.isDigit
    have hempty : t.isEmpty = false := List.isEmpty_eq_false_iff.mpr h.ne_nil
    simp [natural?, hall, hempty, h.ofDigitChars_eq]

/-- Hexadecimal digits denote the number that is added up from them. -/
theorem isNumeral_of_hexDigits {digits : Text} (hne : digits ≠ []) {values : List Nat}
    (h : digits.mapM hexDigit? = some values) :
    IsNumeral 16 digits (values.foldl (16 * · + ·) 0) := by
  induction digits using List.reverseRecOn generalizing values with
  | nil => exact absurd rfl hne
  | append_singleton digits c ih =>
    simp only [List.mapM_append, List.mapM_cons, List.mapM_nil, Option.bind_eq_bind,
      Option.bind_eq_some_iff, Option.pure_def, Option.some.injEq] at h
    obtain ⟨front, hfront, _, ⟨value, hvalue, _, rfl, rfl⟩, rfl⟩ := h
    have hc := hexDigit?_eq_some_iff.mp hvalue
    rw [List.foldl_append]
    cases digits with
    | nil =>
      obtain rfl : [] = front := by simpa using hfront
      simpa using IsNumeral.digit hc
    | cons d digits => exact (ih (List.cons_ne_nil d digits) hfront).append hc

/-- Reading in base sixteen finds the numerals and their numbers. -/
theorem hexadecimal?_eq_some_iff {t : Text} {n : Nat} :
    hexadecimal? t = some n ↔ IsNumeral 16 t n := by
  constructor
  · intro h
    simp only [hexadecimal?, Option.ite_none_left_eq_some, List.isEmpty_iff,
      Option.map_eq_some_iff] at h
    obtain ⟨hne, values, hvalues, rfl⟩ := h
    exact isNumeral_of_hexDigits hne hvalues
  · intro h
    have hempty : t.isEmpty = false := List.isEmpty_eq_false_iff.mpr h.ne_nil
    obtain ⟨values, hvalues, rfl⟩ := h.hexDigits_eq
    simp [hexadecimal?, hempty, hvalues]

/-- The number that decimal digits denote, each of any script. -/
def decimalValue (digits : Text) : Nat :=
  digits.foldl (fun n c => 10 * n + (digitValue? c).getD 0) 0

/-- Digits that the readers accept denote what is read. -/
theorem isNumeral_decimalValue {digits : Text} (hne : digits ≠ [])
    (h : ∀ c ∈ digits, c.isDigit = true) : IsNumeral 10 digits (decimalValue digits) := by
  have hvalue : decimalValue digits = Nat.ofDigitChars 10 digits 0 := by
    apply List.foldl_ext
    intro n c hc
    rw [digitValue?_of_isDigit (h c hc)]
    rfl
  rw [hvalue]
  exact isNumeral_ofDigitChars hne h

end DiceBot.Text
