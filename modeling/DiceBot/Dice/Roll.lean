import DiceBot.Dice.Roller
import DiceBot.Dice.Term

/-!
# Rolling

Dice terms are rolled from left to right, and within a term one die after another; the log of the
roller is passed along. Every die that is rolled stays in the list of its term, marked if a modifier
has dropped it. A modifier that repeats until no die meets its condition is given a number of
rounds; a run that needs more is told apart from one that ended.
-/

namespace DiceBot

/-- A die on the table. -/
structure Die where
  /-- The value it counts for. -/
  value : Nat
  /-- Whether a modifier has changed the value. -/
  changed : Bool
  /-- Whether a modifier has dropped the die. -/
  dropped : Bool
  deriving DecidableEq, Repr

namespace Die

/-- A die as it was rolled. -/
def fresh (value : Nat) : Die := ⟨value, false, false⟩

/-- Whether a die is kept and its value passes a test. -/
def hits (test : Nat → Bool) (die : Die) : Bool := !die.dropped && test die.value

/-- Drops a die. -/
def drop (die : Die) : Die := { die with dropped := true }

/-- Gives a kept die that fails a test a new value. -/
def adjust (test : Nat → Bool) (value : Nat) (die : Die) : Die :=
  if die.dropped || test die.value then die else { die with value := value, changed := true }

/-- A die with its marks. -/
def describe (die : Die) : Text :=
  Text.natural die.value ++ (if die.changed then " (m)".toList else []) ++
    (if die.dropped then " (d)".toList else [])

end Die

/-- Rolls a number of dice, one after another. -/
def rollDice (roller : Roller) (sides : Nat) :
    (count : Nat) → List Request → List Die × List Request
  | 0, log => ([], log)
  | count + 1, log =>
    let first := roller sides log
    let rest := rollDice roller sides count first.2
    (.fresh first.1 :: rest.1, rest.2)

/-- Drops all kept dice but the highest `count`; of equal dice the later are kept. `before` holds
the dice before the rest, nearest first. -/
def keepHighest (count : Nat) (before : List Die) : List Die → List Die
  | [] => []
  | die :: rest =>
    let better := before.countP (Die.hits (Nat.blt die.value)) +
      rest.countP (Die.hits (Nat.ble die.value))
    (if better < count then die else die.drop) :: keepHighest count (die :: before) rest

/-- Drops all kept dice but the lowest `count`; of equal dice the earlier are kept. `before` holds
the dice before the rest, nearest first. -/
def keepLowest (count : Nat) (before : List Die) : List Die → List Die
  | [] => []
  | die :: rest =>
    let better := before.countP (Die.hits fun value => Nat.ble value die.value) +
      rest.countP (Die.hits fun value => Nat.blt value die.value)
    (if better < count then die else die.drop) :: keepLowest count (die :: before) rest

/-- Drops the kept dice that pass a test and rolls as many new ones. -/
def rerollRound (roller : Roller) (sides : Nat) (test : Nat → Bool) (dice : List Die)
    (log : List Request) : List Die × List Request :=
  let new := rollDice roller sides (dice.countP (Die.hits test)) log
  (dice.map (fun die => if die.hits test then die.drop else die) ++ new.1, new.2)

/-- Repeats the round until no kept die passes the test. -/
def rerollUntilNone (roller : Roller) (sides : Nat) (test : Nat → Bool) :
    (rounds : Nat) → List Die → List Request → Option (List Die) × List Request
  | rounds, dice, log =>
    if dice.any (Die.hits test) then
      match rounds with
      | 0 => (none, log)
      | rounds + 1 =>
        let round := rerollRound roller sides test dice log
        rerollUntilNone roller sides test rounds round.1 round.2
    else (some dice, log)

/-- Rolls `count` more dice, and again as many as pass the test among the new ones, until none
does. -/
def explodeUntilNone (roller : Roller) (sides : Nat) (test : Nat → Bool) :
    (rounds count : Nat) → List Die → List Request → Option (List Die) × List Request
  | _, 0, dice, log => (some dice, log)
  | 0, _ + 1, _, log => (none, log)
  | rounds + 1, count + 1, dice, log =>
    let new := rollDice roller sides (count + 1) log
    explodeUntilNone roller sides test rounds (new.1.countP (Die.hits test)) (dice ++ new.1) new.2

/-- Whether every face of a die meets a condition, as far as comparing the bound with the number of
sides tells. -/
def Condition.isCertain (c : Condition) (sides : Nat) : Bool :=
  match c.comparison with
  | .equal => sides == 1 && c.bound == 1
  | .above => c.bound == 0
  | .atLeast => Nat.ble c.bound 1
  | .below => Nat.blt sides c.bound
  | .atMost => Nat.ble sides c.bound

/-- The test that makes a die explode: its condition, or showing the highest face. -/
def explosionTest (sides : Nat) : Option Condition → Nat → Bool
  | some c => c.holds
  | none => (· == sides)

/-- Whether a modifier could never come to an end. -/
def Modifier.isEndless (sides : Nat) : Modifier → Bool
  | reroll true c => c.isCertain sides
  | explode true (some c) => c.isCertain sides
  | explode true none => sides == 1
  | _ => false

/-- Applies a modifier to the dice of a term. There is no result if the rounds do not suffice. -/
def Modifier.apply (roller : Roller) (rounds sides : Nat) :
    Modifier → List Die → List Request → Option (List Die) × List Request
  | reroll false c, dice, log =>
    let round := rerollRound roller sides c.holds dice log
    (some round.1, round.2)
  | reroll true c, dice, log => rerollUntilNone roller sides c.holds rounds dice log
  | explode false c, dice, log =>
    let new := rollDice roller sides (dice.countP (Die.hits (explosionTest sides c))) log
    (some (dice ++ new.1), new.2)
  | explode true c, dice, log =>
    explodeUntilNone roller sides (explosionTest sides c) rounds
      (dice.countP (Die.hits (explosionTest sides c))) dice log
  | .keepHighest n, dice, log => (some (DiceBot.keepHighest n [] dice), log)
  | .keepLowest n, dice, log => (some (DiceBot.keepLowest n [] dice), log)
  | raiseTo n, dice, log => (some (dice.map (Die.adjust (Nat.ble n) n)), log)
  | lowerTo n, dice, log => (some (dice.map (Die.adjust (Nat.ble · n) n)), log)

/-- Why rolling did not come to an end. -/
inductive RollFault where
  /-- A modifier of these dice could never come to an end. -/
  | endless (dice : Dice)
  /-- A modifier needed more rounds than it was given. -/
  | unfinished (dice : Dice)
  deriving DecidableEq, Repr

/-- Dice with what was rolled for them. -/
structure RolledDice where
  /-- The dice to roll. -/
  dice : Dice
  /-- Every die rolled, in order. -/
  faces : List Die
  deriving DecidableEq, Repr

/-- Rolled dice in their canonical form, followed by every die with its marks. -/
def RolledDice.describe (r : RolledDice) : Text :=
  r.dice.describe ++ '[' :: Text.join [',', ' '] (r.faces.map Die.describe) ++ [']']

/-- Applies modifiers in order to the dice rolled so far. -/
def Dice.applyModifiers (roller : Roller) (rounds : Nat) (d : Dice) :
    List Modifier → List Die → List Request → Except RollFault RolledDice × List Request
  | [], faces, log => (.ok ⟨d, faces⟩, log)
  | m :: ms, faces, log =>
    if m.isEndless d.sides then (.error (.endless d), log)
    else match m.apply roller rounds d.sides faces log with
      | (none, log') => (.error (.unfinished d), log')
      | (some faces', log') => applyModifiers roller rounds d ms faces' log'

/-- Rolls dice. -/
def Dice.roll (roller : Roller) (rounds : Nat) (d : Dice) (log : List Request) :
    Except RollFault RolledDice × List Request :=
  let first := rollDice roller d.sides d.count log
  d.applyModifiers roller rounds d.modifiers first.1 first.2

/-- Rolls the dice of an expression from left to right up to the first fault. -/
def Arith.roll (roller : Roller) (rounds : Nat) :
    Arith Dice → List Request → Except RollFault (Arith RolledDice) × List Request
  | number n, log => (.ok (number n), log)
  | dice d, log =>
    let rolled := d.roll roller rounds log
    (rolled.1.map dice, rolled.2)
  | negate e, log =>
    let rolled := roll roller rounds e log
    (rolled.1.map negate, rolled.2)
  | binary op l r, log =>
    match roll roller rounds l log with
    | (.error fault, log') => (.error fault, log')
    | (.ok l', log') =>
      let right := roll roller rounds r log'
      (right.1.map (binary op l'), right.2)

/-- What went wrong, in words that show the dice in their canonical form. -/
def RollFault.message : RollFault → Text
  | endless d => "dice error while evaluating \"".toList ++ d.describe ++ "\": ".toList ++
      d.describe ++ " would result in infinite rolls".toList
  | unfinished d => "dice error while evaluating \"".toList ++ d.describe ++ "\": ".toList ++
      d.describe ++ " did not come to an end".toList

end DiceBot
