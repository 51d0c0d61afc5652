import DiceBot.Text.Basic

/-!
# Sets of code points

A character property is a table of inclusive ranges of code points, searched in order.
-/

namespace DiceBot.Text

/-- A set of code points as inclusive ranges. -/
abbrev CodePoints := List (Nat × Nat)

/-- Whether a character lies in one of the ranges. -/
def CodePoints.has (ranges : CodePoints) (c : Char) : Bool :=
  ranges.any fun range => Nat.ble range.1 c.toNat && Nat.ble c.toNat range.2

/-- A character is in a set of ranges if its scalar value lies in one of them. -/
theorem CodePoints.has_iff (ranges : CodePoints) (c : Char) :
    ranges.has c = true ↔ ∃ range ∈ ranges, range.1 ≤ c.toNat ∧ c.toNat ≤ range.2 := by
  simp [has]

end DiceBot.Text
