/-!
# Text

A text is the list of its Unicode scalar values. Lengths are counted in scalar values, and cutting
a text is cutting the list, so no operation can split a character.
-/

namespace DiceBot

/-- A text: its Unicode scalar values in order. -/
abbrev Text := List Char

namespace Text

/-- What follows `lead` in a text that starts with it. -/
def after? (lead t : Text) : Option Text := lead.isPrefixOf? t

@[simp] theorem after?_nil (t : Text) : after? [] t = some t := rfl

theorem after?_cons_nil (c : Char) (lead : Text) : after? (c :: lead) [] = none := rfl

theorem after?_cons_cons (c d : Char) (lead t : Text) :
    after? (c :: lead) (d :: t) = if c == d then after? lead t else none := rfl

/-- Behind a text at the front of another stands the rest. -/
theorem after?_append (lead t : Text) : after? lead (lead ++ t) = some t := by
  induction lead with
  | nil => rfl
  | cons c lead ih => rw [List.cons_append, after?_cons_cons, beq_self_eq_true, if_pos rfl, ih]

/-- What follows a text in another is what it was put in front of. -/
theorem after?_eq_some_iff {lead t rest : Text} : after? lead t = some rest ↔ t = lead ++ rest := by
  induction lead generalizing t with
  | nil => simp only [after?_nil, List.nil_append, Option.some.injEq]
  | cons c lead ih =>
    cases t with
    | nil => simp only [after?_cons_nil, List.cons_append, reduceCtorEq]
    | cons d t =>
      by_cases hcd : c = d
      · subst hcd
        simpa only [after?_cons_cons, beq_self_eq_true, if_true, List.cons_append, List.cons.injEq,
          true_and] using ih
      · have hne : (c == d) = false := by simpa using hcd
        simp only [after?_cons_cons, hne, Bool.false_eq_true, if_false, List.cons_append,
          List.cons.injEq, Ne.symm hcd, false_and, reduceCtorEq]

/-- The decimal numeral of a natural number, without leading zeros. -/
def natural (n : Nat) : Text := Nat.toDigits 10 n

/-- The decimal numeral of an integer, with a minus sign if it is negative. -/
def integer : Int → Text
  | .ofNat n => natural n
  | .negSucc n => '-' :: natural (n + 1)

/-- The value of a text of one or more ASCII decimal digits. -/
def natural? (t : Text) : Option Nat :=
  if t.isEmpty || !t.all Char.isDigit then none else some (Nat.ofDigitChars 10 t 0)

/-- The texts of a list, with a separator between neighbours. -/
def join (separator : Text) (ts : List Text) : Text := List.intercalate separator ts

end Text

end DiceBot
