import DiceBot.Dice.Library
import DiceBot.Proofs.Dice.Grammar

/-!
# What is relied on of the dice library

The library is foreign to the bot, so what is said of expanding, of the budget and of repeated rolls
holds for every library that keeps some laws: it reads the grammar, it rolls plain dice one by one
and further dice for modifiers only, and it adds up the dice of a term. Whether modifiers may roll a
further die for a die of some value is found by following the value through them.
-/

namespace DiceBot

/-- Whether a text is an expression in which every dice term has its faces, with this tree. -/
def Notation.IsRollable (t : Text) (e : Arith Dice) : Prop :=
  ∃ e', IsExpression t e' ∧ e'.mapM? Term.dice? = some e

namespace Modifier

/-- Whether a modifier rolls a die for a kept die of a value. -/
def hits (sides : Nat) : Modifier → Nat → Bool
  | reroll _ c => c.holds
  | explode _ c => explosionTest sides c
  | _ => fun _ => false

/-- The value that a die has after a modifier if it had another before and was not hit, if it is
kept at all. -/
def after : Modifier → Nat → Option Nat
  | .keepHighest n, v => if n = 0 then none else some v
  | .keepLowest n, v => if n = 0 then none else some v
  | raiseTo n, v => some (max v n)
  | lowerTo n, v => some (min v n)
  | _, v => some v

/-- Whether a modifier repeats until no die is hit. -/
def repeats : Modifier → Bool
  | reroll untilNone _ => untilNone
  | explode untilNone _ => untilNone
  | _ => false

/-- Whether modifiers roll a further die for a die of a value, as long as the die is not
replaced. -/
def mayAdd (sides : Nat) : List Modifier → Nat → Bool
  | [], _ => false
  | m :: ms, v =>
    !m.isEndless sides && (m.hits sides v ||
      match m.after v with
      | none => false
      | some w => mayAdd sides ms w)

/-- Whether rolling is not refused for a modifier and, if it repeats, some face makes it end. -/
def CanEnd (sides : Nat) (m : Modifier) : Prop :=
  m.isEndless sides = false ∧
    (m.repeats = true → ∃ f, 1 ≤ f ∧ f ≤ max sides 1 ∧ m.hits sides f = false)

end Modifier

namespace Dice

/-- Whether every modifier can end. -/
def CanEnd (d : Dice) : Prop := ∀ m ∈ d.modifiers, m.CanEnd d.sides

/-- Whether some face makes dice roll more than they ask for. -/
def canAdd (d : Dice) : Bool :=
  d.count != 0 && (List.range (max d.sides 1)).any fun i =>
    Modifier.mayAdd d.sides d.modifiers (i + 1)

/-- The requests for dice that no modifier adds to. -/
def requests (d : Dice) : List Request := List.replicate d.count (.forDie d.sides)

/-- Dice as they were rolled by a source of answers, whose answer to the first was number
`position`. -/
def rolledAt (answer : Nat → Request → Int) (position : Nat) (d : Dice) : RolledDice :=
  ⟨d, d.requests.mapIdx fun i request => .fresh (request.face (answer (position + i) request))⟩

end Dice

namespace Arith

/-- The number of dice that an expression asks for. -/
def diceAsked (e : Arith Dice) : Nat := (e.leaves.map Dice.count).sum

/-- The requests for the dice that an expression asks for, term by term from left to right. -/
def requests (e : Arith Dice) : List Request := e.leaves.flatMap Dice.requests

/-- Whether no term has modifiers. -/
def IsPlain (e : Arith Dice) : Prop := ∀ d ∈ e.leaves, d.modifiers = []

end Arith

/-- What was rolled for an expression: its dice with the faces of a run, term by term. -/
structure RolledArith.IsRollOf (r : RolledArith) (e : Arith Dice) (faces : List Die) : Prop where
  /-- The dice are those of the expression. -/
  dice : r.map RolledDice.dice = e
  /-- The faces are those of the run. -/
  faces : r.leaves.flatMap RolledDice.faces = faces
  /-- Every term has as many faces as it asks for. -/
  length : ∀ d ∈ r.leaves, d.faces.length = d.dice.count

/-- What the bot relies on of a library. -/
structure DiceLibrary.Lawful (library : DiceLibrary) : Prop where
  /-- What is read is the grammar. -/
  read?_eq_some_iff : ∀ {t : Text} {e : Arith Dice},
    library.read? t = some e ↔ Notation.IsRollable t e
  /-- A roll takes the answers from its first request on, and nothing else decides on it. -/
  roll_from : ∀ (answer : Nat → Request → Int) (rounds : Nat) (e : Arith Dice)
    (log : List Request),
    let rolled := library.roll (.ofAnswers fun i => answer (log.length + i)) rounds e []
    library.roll (.ofAnswers answer) rounds e log = (rolled.1, log ++ rolled.2)
  /-- Without modifiers, every die asked for is rolled once, in order. -/
  roll_plain : ∀ (answer : Nat → Request → Int) (rounds : Nat) {e : Arith Dice}
    (log : List Request), e.IsPlain →
    ∃ r : RolledArith, library.roll (.ofAnswers answer) rounds e log =
        (.ok r, log ++ e.requests) ∧
      r.IsRollOf e (e.requests.mapIdx fun i request =>
        .fresh (request.face (answer (log.length + i) request))) ∧
      ∀ d ∈ r.leaves, ∃ position, d = d.dice.rolledAt answer position
  /-- If no face leads to a further die, no more dice are rolled than are asked for. -/
  roll_within : ∀ (answer : Nat → Request → Int) (rounds : Nat) {e : Arith Dice}
    (log : List Request), (∀ d ∈ e.leaves, d.canAdd = false) →
    (library.roll (.ofAnswers answer) rounds e log).2.length ≤ log.length + e.diceAsked
  /-- If every modifier can end, rolling comes to an end with some faces, and if some face leads to
  a further die, with faces for which more dice are rolled than are asked for. -/
  roll_beyond : ∀ {e : Arith Dice}, (∀ d ∈ e.leaves, d.CanEnd) →
    ∃ (answer : Nat → Request → Int) (r : RolledArith) (asked : List Request),
      (∀ rounds, library.roll (.ofAnswers answer) (rounds + 1) e [] = (.ok r, asked)) ∧
      e.diceAsked ≤ asked.length ∧
      ((∃ d ∈ e.leaves, d.canAdd = true) → e.diceAsked < asked.length)
  /-- The dice of a term are added up. -/
  total_dice : ∀ {d : RolledDice}, d.total ≤ maxDiceTotal →
    library.total (.dice d) = .ok d.total

end DiceBot
