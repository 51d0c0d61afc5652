import DiceBot.Text.Blank
import DiceBot.Text.DecimalDigit
import DiceBot.Text.Letter

/-!
# Classes of characters lie apart

No character is of two of the classes of blanks, letters and decimal digits. For tables of ranges
this means that each range of one ends before, or begins after, each range of the other.
-/

namespace DiceBot.Text

namespace CodePoints

/-- Whether each range of one table lies apart from each range of another. -/
def isApart (ranges others : CodePoints) : Bool :=
  ranges.all fun range => others.all fun other =>
    Nat.blt range.2 other.1 || Nat.blt other.2 range.1

/-- A character in one of two tables that lie apart is not in the other. -/
theorem has_eq_false_of_isApart {ranges others : CodePoints} (hapart : ranges.isApart others = true)
    {c : Char} (hc : ranges.has c = true) : others.has c = false := by
  obtain ⟨range, hrange, hlow, hhigh⟩ := (has_iff ranges c).mp hc
  rw [Bool.eq_false_iff]
  intro hother
  obtain ⟨other, hmem, hlow', hhigh'⟩ := (has_iff others c).mp hother
  have hboth := List.all_eq_true.mp (List.all_eq_true.mp hapart range hrange) other hmem
  rw [Bool.or_eq_true, Nat.blt_eq, Nat.blt_eq] at hboth
  omega

end CodePoints

/-- The code points of the decimal digits, ten of each script. -/
def digitCodePoints : CodePoints := zeroDigits.map fun first => (first, first + 9)

/-- The digits of all scripts are those of the table. -/
theorem isDecimalDigit_eq (c : Char) : isDecimalDigit c = digitCodePoints.has c := by
  rw [isDecimalDigit, digitValue?, Option.isSome_map, List.isSome_find?, digitCodePoints,
    CodePoints.has, List.any_map]
  rfl

/-- No blank is a decimal digit of any script. -/
theorem isDecimalDigit_of_isBlankChar {c : Char} (hc : isBlankChar c = true) :
    isDecimalDigit c = false := by
  have hapart : blankCodePoints.isApart digitCodePoints = true := by decide +kernel
  rw [isDecimalDigit_eq]
  exact CodePoints.has_eq_false_of_isApart hapart hc

/-- No digit of any script is blank. -/
theorem isBlankChar_of_isDecimalDigit {c : Char} (hc : isDecimalDigit c = true) :
    isBlankChar c = false := by
  rw [Bool.eq_false_iff]
  intro hblank
  exact Bool.false_ne_true ((isDecimalDigit_of_isBlankChar hblank).symm.trans hc)

/-- No blank is a letter of any script. -/
theorem isLetter_of_isBlankChar {c : Char} (hc : isBlankChar c = true) : isLetter c = false := by
  have hapart : blankCodePoints.isApart letterCodePoints = true := by decide +kernel
  exact CodePoints.has_eq_false_of_isApart hapart hc

/-- No decimal digit of any script is a letter. -/
theorem isLetter_of_isDecimalDigit {c : Char} (hc : isDecimalDigit c = true) :
    isLetter c = false := by
  have hapart : digitCodePoints.isApart letterCodePoints = true := by decide +kernel
  rw [isDecimalDigit_eq] at hc
  exact CodePoints.has_eq_false_of_isApart hapart hc

end DiceBot.Text
