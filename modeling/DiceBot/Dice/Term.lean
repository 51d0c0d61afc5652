import DiceBot.Dice.Arith

/-!
# Dice terms

A dice term asks for a number of equal dice and changes what is rolled by modifiers, applied in the
order written. In a term as written the number of dice and their faces may be left open.
-/

namespace DiceBot

/-- How the value of a die is compared with a bound. -/
inductive Comparison where
  | equal
  | above
  | atLeast
  | below
  | atMost
  deriving DecidableEq, Repr

/-- A condition on the value of a die. -/
structure Condition where
  /-- How the value is compared. -/
  comparison : Comparison
  /-- What it is compared with. -/
  bound : Nat
  deriving DecidableEq, Repr

/-- A change of what has been rolled. -/
inductive Modifier where
  /-- Drop each kept die that meets a condition and roll another, once or until none meets it. -/
  | reroll (untilNone : Bool) (condition : Condition)
  /-- Roll another die for each kept die that meets a condition, or shows its highest face if there
  is no condition; once or for the new dice too. -/
  | explode (untilNone : Bool) (condition : Option Condition)
  /-- Keep a number of the highest dice. -/
  | keepHighest (count : Nat)
  /-- Keep a number of the lowest dice. -/
  | keepLowest (count : Nat)
  /-- Raise each kept die to a bound. -/
  | raiseTo (bound : Nat)
  /-- Lower each kept die to a bound. -/
  | lowerTo (bound : Nat)
  deriving DecidableEq, Repr

/-- A number of equal dice and the changes to make. -/
structure Dice where
  /-- How many dice are rolled at first. -/
  count : Nat
  /-- How many sides each die has. -/
  sides : Nat
  /-- The changes, in order. -/
  modifiers : List Modifier
  deriving DecidableEq, Repr

/-- A dice term as written, in which the number of dice and the faces may be missing. -/
structure Term where
  /-- The number of dice, if written. -/
  count : Option Nat
  /-- The faces, if written. -/
  faces : Option Nat
  /-- The changes, in order. -/
  modifiers : List Modifier
  deriving DecidableEq, Repr

/-- The dice that a term with faces stands for; a missing number of dice is one. -/
def Term.dice? (term : Term) : Option Dice :=
  term.faces.map fun sides => ⟨term.count.getD 1, sides, term.modifiers⟩

/-- The dice that a term stands for when missing numbers are taken from defaults. -/
def Term.fill (count faces : Nat) (term : Term) : Dice :=
  ⟨term.count.getD count, term.faces.getD faces, term.modifiers⟩

/-- The sign of a comparison. -/
def Comparison.sign : Comparison → Text
  | equal => ['=']
  | above => ['>']
  | atLeast => ['>', '=']
  | below => ['<']
  | atMost => ['<', '=']

/-- Whether a value stands in a relation to a bound. -/
def Comparison.holds (comparison : Comparison) (value bound : Nat) : Bool :=
  match comparison with
  | equal => value == bound
  | above => Nat.blt bound value
  | atLeast => Nat.ble bound value
  | below => Nat.blt value bound
  | atMost => Nat.ble value bound

/-- A condition with its sign, which is always shown. -/
def Condition.describe (c : Condition) : Text := c.comparison.sign ++ Text.natural c.bound

/-- Whether a value meets a condition. -/
def Condition.holds (c : Condition) (value : Nat) : Bool := c.comparison.holds value c.bound

/-- The number of dice kept, which is shown only from two on. -/
def describeKept (count : Nat) : Text := if count ≤ 1 then [] else Text.natural count

/-- A modifier in its canonical form. -/
def Modifier.describe : Modifier → Text
  | reroll untilNone c => (if untilNone then ['r', 'r'] else ['r']) ++ c.describe
  | explode untilNone c =>
    (if untilNone then ['x'] else ['x', 'o']) ++ (c.map Condition.describe).getD []
  | keepHighest n => ['k', 'h'] ++ describeKept n
  | keepLowest n => ['k', 'l'] ++ describeKept n
  | raiseTo n => ['m', 'i', 'n'] ++ Text.natural n
  | lowerTo n => ['m', 'a', 'x'] ++ Text.natural n

/-- Dice in their canonical form. -/
def Dice.describe (d : Dice) : Text :=
  Text.natural d.count ++ 'd' :: Text.natural d.sides ++ d.modifiers.flatMap Modifier.describe

end DiceBot
