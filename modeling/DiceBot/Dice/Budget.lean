import DiceBot.Text.DecimalDigit

/-!
# The dice budget

Before an expression is read, the numbers of dice it asks for are added up from its text: every run
of decimal digits that a letter d and another digit follow counts. The digits may belong to any
script, but a run that is no plain number below 2 ^ 64 counts as the greatest such number, and the
sum stops growing there.
-/

namespace DiceBot

namespace Budget

/-- How far the search for a number of dice has come. -/
inductive Search where
  /-- No digits were read. -/
  | idle
  /-- A run of digits was read; its digits, last first. -/
  | run (digits : Text)
  /-- A run of digits and the letter d were read; the digits, last first. -/
  | lettered (digits : Text)
  deriving DecidableEq, Repr

/-- The numbers of dice found in a text that follows what was read so far, as they are written. The
digit after the letter belongs to what was found and begins no new run. -/
def countsFrom : Search → Text → List Text
  | _, [] => []
  | .idle, c :: rest => countsFrom (if Text.isDecimalDigit c then .run [c] else .idle) rest
  | .run digits, c :: rest =>
    if Text.isDecimalDigit c then countsFrom (.run (c :: digits)) rest
    else countsFrom (if c = 'd' then .lettered digits else .idle) rest
  | .lettered digits, c :: rest =>
    if Text.isDecimalDigit c then digits.reverse :: countsFrom .idle rest
    else countsFrom .idle rest

/-- The numbers of dice that a text asks for, as they are written. -/
def counts (t : Text) : List Text := countsFrom .idle t

/-- The greatest number that is told apart from greater ones. -/
def ceiling : Nat := UInt64.size - 1

/-- The value of a run of digits, cut off at the ceiling. -/
def countValue (digits : Text) : Nat :=
  match Text.natural? digits with
  | some n => min n ceiling
  | none => ceiling

/-- The number of dice that a text asks for, cut off at the ceiling. -/
def total (t : Text) : Nat :=
  ((counts t).map countValue).foldl (fun sum n => min (sum + n) ceiling) 0

/-- Whether a text asks for no more dice than allowed. -/
def allows (maxDice : UInt32) (t : Text) : Bool := Nat.ble (total t) maxDice.toNat

end Budget

end DiceBot
