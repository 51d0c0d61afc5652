import DiceBot.Dice.Expression
import DiceBot.Dice.Total

/-!
# The dice library

Notation is read, rolled and computed by a library. The bot relies on five things of it, which are
grouped here, so that what is done around the library can be told from what is done by it.
-/

namespace DiceBot

/-- What the bot uses of a library for dice notation. -/
structure DiceLibrary where
  /-- Reads an expression in lower case. -/
  read? : Text → Option (Arith Dice)
  /-- What is said of a text that cannot be read. -/
  explain : Text → Text
  /-- Rolls the dice of an expression. A modifier that repeats until no die meets its condition may
  take a number of rounds. -/
  roll : Roller → (rounds : Nat) → Arith Dice → List Request →
    Except RollFault RolledArith × List Request
  /-- Computes the value of a roll. -/
  total : RolledArith → Except TotalFault Int
  /-- Describes a roll. -/
  describe : RolledArith → Text

/-- The library for this notation, with what it says of every text that it cannot read. -/
def Notation.library (explanation : Text) : DiceLibrary where
  read? := read?
  explain _ := explanation
  roll := Arith.roll
  total := RolledArith.total
  describe := RolledArith.describe

end DiceBot
