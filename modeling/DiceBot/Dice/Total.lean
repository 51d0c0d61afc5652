import DiceBot.Dice.Roll

/-!
# The value of a roll

Rolled expressions are computed with signed 32-bit numbers, the left operand first; a result that
does not fit is a fault that shows the expression it arose in. The kept dice of a term are added up
as an unsigned 16-bit number.
-/

namespace DiceBot

/-- An expression over rolled dice. -/
abbrev RolledArith := Arith RolledDice

/-- Why a rolled expression has no value. -/
inductive TotalFault where
  /-- A number does not fit. -/
  | overflow (node : RolledArith)
  /-- The divisor is zero or the quotient does not fit. -/
  | division (node : RolledArith)
  /-- The dice of a term add up to more than fits. -/
  | diceOverflow (node : RolledDice)
  deriving DecidableEq, Repr

/-- The description of a rolled expression: what was rolled, die by die. -/
def RolledArith.describe (e : RolledArith) : Text := Arith.describe RolledDice.describe e

/-- What went wrong, in words that show where. -/
def TotalFault.message : TotalFault → Text
  | overflow node => "integer overflow while calculating ".toList ++ RolledArith.describe node
  | division node => "division error while calculating ".toList ++ RolledArith.describe node
  | diceOverflow node => "dice error while calculating (".toList ++ node.describe ++
      "): integer overflow".toList

/-- Whether a number fits 32 bits with sign. -/
def fitsInt32 (n : Int) : Bool := decide (-Int.pow 2 31 ≤ n ∧ n < Int.pow 2 31)

/-- The greatest sum of the dice of one term. -/
def maxDiceTotal : Nat := UInt16.size - 1

/-- The sum of the kept dice. -/
def RolledDice.total (r : RolledDice) : Nat :=
  ((r.faces.filter (!·.dropped)).map Die.value).foldl (· + ·) 0

/-- The quotient rounded toward zero, plus one if the division leaves a remainder. -/
def divideUp (a b : Int) : Int := a.tdiv b + if a.tmod b = 0 then 0 else 1

/-- The exact result of an operator. -/
def Operator.compute (a b : Int) : Operator → Int
  | add => a + b
  | subtract => a - b
  | multiply => a * b
  | divide => a.tdiv b
  | divideUp => DiceBot.divideUp a b

/-- Whether an operator divides. -/
def Operator.isDivision : Operator → Bool
  | divide | divideUp => true
  | _ => false

/-- Applies an operator to two values; `node` is the expression shown if that fails. -/
def Operator.apply (op : Operator) (node : RolledArith) (a b : Int) : Except TotalFault Int :=
  if op.isDivision then
    if b = 0 ∨ !fitsInt32 (op.compute a b) then .error (.division node) else .ok (op.compute a b)
  else if fitsInt32 (op.compute a b) then .ok (op.compute a b) else .error (.overflow node)

/-- The value of a rolled expression. -/
def RolledArith.total : RolledArith → Except TotalFault Int
  | .number n => .ok n
  | .dice r => if r.total ≤ maxDiceTotal then .ok r.total else .error (.diceOverflow r)
  | .negate e =>
    match total e with
    | .error fault => .error fault
    | .ok a => if fitsInt32 (-a) then .ok (-a) else .error (.overflow (.negate e))
  | .binary op l r =>
    match total l with
    | .error fault => .error fault
    | .ok a =>
      match total r with
      | .error fault => .error fault
      | .ok b => op.apply (.binary op l r) a b

end DiceBot
