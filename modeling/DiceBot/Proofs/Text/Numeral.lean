import Mathlib.Algebra.GroupWithZero.Nat
import DiceBot.Text.DecimalDigit

/-!
# Numerals

A numeral consists of ASCII digits, is never empty, and reads back as its number. Conversely every
run of digits that does not begin with a zero is the numeral of its value.
-/

namespace DiceBot.Text

theorem natural_ne_nil (n : Nat) : natural n ≠ [] := Nat.toDigits_ne_nil

/-- The numeral of a number is made of digits. -/
theorem isDigit_of_mem_natural {n : Nat} {c : Char} (hc : c ∈ natural n) : c.isDigit = true :=
  Nat.isDigit_of_mem_toDigits (by decide) (by decide) hc

/-- A numeral is a digit and maybe more digits behind it. -/
theorem exists_natural_eq_cons (n : Nat) :
    ∃ c digits, natural n = c :: digits ∧ c.isDigit = true ∧ ∀ d ∈ digits, d.isDigit = true := by
  cases hn : natural n with
  | nil => exact absurd hn (natural_ne_nil n)
  | cons c digits =>
    have hall : ∀ d ∈ c :: digits, d.isDigit = true := by
      intro d hd
      rw [← hn] at hd
      exact isDigit_of_mem_natural hd
    exact ⟨c, digits, rfl, hall c List.mem_cons_self,
      fun d hd => hall d (List.mem_cons_of_mem c hd)⟩

/-- The numeral of a number is read as that number. -/
@[simp] theorem natural?_natural (n : Nat) : natural? (natural n) = some n := by
  have hall : (natural n).all Char.isDigit = true :=
    List.all_eq_true.mpr fun c hc => isDigit_of_mem_natural hc
  have hempty : (natural n).isEmpty = false := by
    cases hn : natural n with
    | nil => exact absurd hn (natural_ne_nil n)
    | cons c t => rfl
  simp only [natural?, hempty, hall, Bool.not_true, Bool.or_self, Bool.false_eq_true, if_false]
  exact congrArg some Nat.ofDigitChars_ten_toDigits

/-- Two numbers do not share a numeral. -/
theorem natural_injective {m n : Nat} (h : natural m = natural n) : m = n := by
  have hread := congrArg natural? h
  rwa [natural?_natural, natural?_natural, Option.some.injEq] at hread

theorem integer_ne_nil (z : Int) : integer z ≠ [] := by
  cases z with
  | ofNat n => exact natural_ne_nil n
  | negSucc n => exact List.cons_ne_nil _ _

/-- The numeral of an integer consists of digits and maybe a minus sign. -/
theorem mem_integer {z : Int} {c : Char} (hc : c ∈ integer z) : c = '-' ∨ c.isDigit = true := by
  cases z with
  | ofNat n => exact Or.inr (isDigit_of_mem_natural hc)
  | negSucc n =>
    rcases List.mem_cons.mp hc with hsign | hdigit
    · exact Or.inl hsign
    · exact Or.inr (isDigit_of_mem_natural hdigit)

/-- The numeral of a natural number does not begin with a sign. -/
theorem natural_ne_minus (n : Nat) (t : Text) : natural n ≠ '-' :: t := by
  intro h
  have hminus : '-' ∈ natural n := by
    rw [h]
    exact List.mem_cons_self
  exact absurd (isDigit_of_mem_natural hminus) (by decide)

/-- An integer is told by its numeral. -/
theorem integer_injective {y z : Int} (h : integer y = integer z) : y = z := by
  cases y with
  | ofNat m =>
    cases z with
    | ofNat n => rw [natural_injective h]
    | negSucc n => exact absurd h (natural_ne_minus m _)
  | negSucc m =>
    cases z with
    | ofNat n => exact absurd h.symm (natural_ne_minus n _)
    | negSucc n => rw [Nat.succ.inj (natural_injective (List.cons.inj h).2)]

/-- A numeral has no more digits than the power of ten that its number is below, and a sign. -/
theorem length_integer_le {z : Int} {k : Nat} (hk : 0 < k) (hz : z.natAbs < 10 ^ k) :
    (integer z).length ≤ k + 1 := by
  cases z with
  | ofNat n => exact Nat.le_succ_of_le ((Nat.length_toDigits_le_iff (by decide) hk).mpr hz)
  | negSucc n => exact Nat.succ_le_succ ((Nat.length_toDigits_le_iff (by decide) hk).mpr hz)

/-- What holds of all code points below a bound holds of a character below it. -/
theorem of_toNat_lt {P : Char → Prop} {b : Nat} (hall : ∀ n, n < b → P (Char.ofNat n)) {c : Char}
    (hc : c.toNat < b) : P c := by
  have hchar := hall c.toNat hc
  rwa [Char.ofNat_toNat] at hchar

/-- The ten digits by their scalar values. -/
theorem isDigit_iff {c : Char} : c.isDigit = true ↔ 48 ≤ c.toNat ∧ c.toNat ≤ 57 := by
  simp only [Char.isDigit, ge_iff_le, Bool.and_eq_true, decide_eq_true_eq, UInt32.le_iff_toNat_le]
  exact Iff.rfl

/-- A digit is the character of its value. -/
private theorem digitChar_of_isDigit {c : Char} (hc : c.isDigit = true) :
    Nat.digitChar (c.toNat - 48) = c := by
  have hrange := isDigit_iff.mp hc
  apply Char.toNat_inj.mp
  rw [Nat.toNat_digitChar_of_lt_ten (by omega)]
  omega

/-- Digits after the numeral of a positive number make the numeral of a greater one. -/
private theorem natural_append_digits {t : Text} (ht : ∀ c ∈ t, c.isDigit = true) {n : Nat}
    (hn : 0 < n) : natural n ++ t = natural (Nat.ofDigitChars 10 t n) := by
  induction t generalizing n with
  | nil => rw [List.append_nil, Nat.ofDigitChars_nil]
  | cons c t ih =>
    have hc := ht c List.mem_cons_self
    have hrange := isDigit_iff.mp hc
    have hdigit : natural n ++ [c] = natural (10 * n + (c.toNat - 48)) := by
      have hlt : c.toNat - 48 < 10 := by omega
      have happend := Nat.toDigits_append_toDigits (by decide) hn hlt
      rw [Nat.toDigits_of_lt_base hlt, digitChar_of_isDigit hc] at happend
      exact happend
    have hrest := ih (fun d hd => ht d (List.mem_cons_of_mem c hd))
      (show 0 < 10 * n + (c.toNat - 48) by omega)
    rw [Nat.ofDigitChars_cons, ← List.singleton_append, ← List.append_assoc, hdigit]
    exact hrest

/-- Digits of which the first is not zero are the numeral of their value. -/
theorem natural_ofDigitChars {c : Char} {t : Text} (hc : c.isDigit = true) (hzero : c ≠ '0')
    (ht : ∀ d ∈ t, d.isDigit = true) : natural (Nat.ofDigitChars 10 (c :: t) 0) = c :: t := by
  have hrange := isDigit_iff.mp hc
  have hpos : 0 < c.toNat - 48 := by
    have hne : c.toNat ≠ 48 := fun h => hzero (Char.toNat_inj.mp h)
    omega
  have hone : natural (c.toNat - 48) = [c] := by
    rw [natural, Nat.toDigits_of_lt_base (by omega), digitChar_of_isDigit hc]
  rw [Nat.ofDigitChars_cons, ← List.singleton_append (l := t), ← hone,
    natural_append_digits ht hpos]
  simp only [Nat.mul_zero, Nat.zero_add, Char.reduceToNat]

/-- The numeral of a positive number does not begin with a zero. -/
theorem head?_natural_ne_zero {n : Nat} (hn : 0 < n) : (natural n).head? ≠ some '0' := by
  induction n using Nat.strongRecOn with
  | ind n ih =>
    by_cases hlt : n < 10
    · intro hzero
      have hvalue := Nat.toNat_digitChar_of_lt_ten hlt
      rw [natural, Nat.toDigits_of_lt_base hlt, List.head?_cons, Option.some.injEq] at hzero
      simp only [hzero, Char.reduceToNat] at hvalue
      omega
    · have hsplit : natural n = natural (n / 10) ++ [(n % 10).digitChar] :=
        Nat.toDigits_of_base_le (by decide) (by omega)
      have hhead := ih (n / 10) (by omega) (by omega)
      obtain ⟨c, digits, hcons, -⟩ := exists_natural_eq_cons (n / 10)
      rw [hcons, List.head?_cons] at hhead
      rw [hsplit, hcons, List.cons_append, List.head?_cons]
      exact hhead

/-- The value of an ASCII digit. -/
theorem digitValue?_of_isDigit {c : Char} (hc : c.isDigit = true) :
    digitValue? c = some (c.toNat - 48) := by
  have hrange := isDigit_iff.mp hc
  have hfirst : (Nat.ble 0x30 c.toNat && Nat.ble c.toNat (0x30 + 9)) = true := by
    rw [Bool.and_eq_true, Nat.ble_eq, Nat.ble_eq]
    omega
  simp only [digitValue?, zeroDigits, List.find?_cons, hfirst, Option.map_some]

/-- An ASCII digit is a decimal digit. -/
theorem isDecimalDigit_of_isDigit {c : Char} (hc : c.isDigit = true) : isDecimalDigit c = true := by
  rw [isDecimalDigit, digitValue?_of_isDigit hc, Option.isSome_some]

end DiceBot.Text
