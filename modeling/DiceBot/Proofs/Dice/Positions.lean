import DiceBot.Dice.Library

/-!
# Rolling from a position

A roll that begins behind earlier requests is the roll that begins with the answer to the first
request behind them: it neither reads an earlier answer nor depends on how many there were.
-/

namespace DiceBot

/-- What is rolled with earlier requests in the log. -/
def behind {α : Type} (earlier : List Request) (rolled : α × List Request) : α × List Request :=
  (rolled.1, earlier ++ rolled.2)

/-- Whether a roller does behind earlier requests what another does without them. -/
def Roller.Continues (roller : Roller) (earlier : List Request) (roller' : Roller) : Prop :=
  ∀ sides log, roller sides (earlier ++ log) = behind earlier (roller' sides log)

/-- Behind earlier requests a source gives the answers to later ones. -/
theorem Roller.ofAnswers_continues (answer : Nat → Request → Int) (earlier : List Request) :
    (ofAnswers answer).Continues earlier (.ofAnswers fun i => answer (earlier.length + i)) := by
  intro sides log
  rw [ofAnswers, ofAnswers, behind, List.length_append, List.append_assoc]

section

variable {roller roller' : Roller} {earlier : List Request} (h : roller.Continues earlier roller')

include h

/-- Dice are rolled one after another from where a run begins. -/
theorem rollDice_behind (sides count : Nat) (log : List Request) :
    rollDice roller sides count (earlier ++ log) =
      behind earlier (rollDice roller' sides count log) := by
  induction count generalizing log with
  | zero => rfl
  | succ count ih => simp only [rollDice, h sides log, behind, ih]

namespace Modifier

/-- A round of rerolls does the same behind earlier requests. -/
theorem rerollRound_behind (sides : Nat) (test : Nat → Bool) (dice : List Die)
    (log : List Request) :
    rerollRound roller sides test dice (earlier ++ log) =
      behind earlier (rerollRound roller' sides test dice log) := by
  simp only [rerollRound, rollDice_behind h, behind]

/-- Repeated rerolls do the same behind earlier requests. The induction is on the rounds. -/
theorem rerollUntilNone_behind (sides : Nat) (test : Nat → Bool) (rounds : Nat)
    (dice : List Die) (log : List Request) :
    rerollUntilNone roller sides test rounds dice (earlier ++ log) =
      behind earlier (rerollUntilNone roller' sides test rounds dice log) := by
  induction rounds generalizing dice log with
  | zero =>
    rw [rerollUntilNone, rerollUntilNone]
    split <;> rfl
  | succ rounds ih =>
    have hround := rerollRound_behind h sides test dice log
    rw [rerollUntilNone, rerollUntilNone]
    split
    · simp only [hround]
      exact ih _ _
    · rfl

/-- Repeated explosions do the same behind earlier requests. The induction is on the rounds. -/
theorem explodeUntilNone_behind (sides : Nat) (test : Nat → Bool) (rounds count : Nat)
    (dice : List Die) (log : List Request) :
    explodeUntilNone roller sides test rounds count dice (earlier ++ log) =
      behind earlier (explodeUntilNone roller' sides test rounds count dice log) := by
  induction rounds generalizing count dice log with
  | zero => cases count <;> rfl
  | succ rounds ih =>
    cases count with
    | zero => rfl
    | succ count =>
      have hnew := rollDice_behind h sides (count + 1) log
      simp only [explodeUntilNone, hnew]
      exact ih _ _ _

/-- A modifier does the same behind earlier requests. -/
theorem apply_behind (rounds sides : Nat) (m : Modifier) (dice : List Die) (log : List Request) :
    m.apply roller rounds sides dice (earlier ++ log) =
      behind earlier (m.apply roller' rounds sides dice log) := by
  cases m with
  | reroll untilNone c =>
    cases untilNone with
    | false => simp only [apply, rerollRound_behind h, behind]
    | true => exact rerollUntilNone_behind h sides c.holds rounds dice log
  | explode untilNone c =>
    cases untilNone with
    | false => simp only [apply, rollDice_behind h, behind]
    | true => exact explodeUntilNone_behind h sides _ rounds _ dice log
  | keepHighest n => rfl
  | keepLowest n => rfl
  | raiseTo n => rfl
  | lowerTo n => rfl

end Modifier

/-- Modifiers do the same behind earlier requests. The induction is on the modifiers. -/
theorem Dice.applyModifiers_behind (rounds : Nat) (d : Dice) (ms : List Modifier)
    (faces : List Die) (log : List Request) :
    d.applyModifiers roller rounds ms faces (earlier ++ log) =
      behind earlier (d.applyModifiers roller' rounds ms faces log) := by
  induction ms generalizing faces log with
  | nil => rfl
  | cons m ms ih =>
    rw [applyModifiers, applyModifiers, Modifier.apply_behind h]
    split
    · rfl
    · cases m.apply roller' rounds d.sides faces log with
      | mk result log' =>
        cases result with
        | none => rfl
        | some faces' => exact ih faces' log'

/-- A term is rolled in the same way behind earlier requests. -/
theorem Dice.roll_behind (rounds : Nat) (d : Dice) (log : List Request) :
    d.roll roller rounds (earlier ++ log) = behind earlier (d.roll roller' rounds log) := by
  simp only [roll, rollDice_behind h, behind]
  exact Dice.applyModifiers_behind h rounds d d.modifiers _ _

/-- An expression is rolled in the same way behind earlier requests. The induction is on the
expression; a right operand finds the requests of the left one in the log. -/
theorem Arith.roll_behind (rounds : Nat) (e : Arith Dice) (log : List Request) :
    e.roll roller rounds (earlier ++ log) = behind earlier (e.roll roller' rounds log) := by
  induction e generalizing log with
  | number n => rfl
  | dice d => simp only [roll, Dice.roll_behind h, behind]
  | negate e ih => simp only [roll, ih, behind]
  | binary op l r ihl ihr =>
    rw [roll, roll, ihl]
    cases roll roller' rounds l log with
    | mk result log' =>
      cases result with
      | error fault => rfl
      | ok l' => simp only [behind, ihr]

end

/-- A roll takes the answers from its first request on. -/
theorem Arith.roll_ofAnswers_eq (answer : Nat → Request → Int) (rounds : Nat) (e : Arith Dice)
    (log : List Request) :
    e.roll (.ofAnswers answer) rounds log =
      behind log (e.roll (.ofAnswers fun i => answer (log.length + i)) rounds []) := by
  have hroll := Arith.roll_behind (Roller.ofAnswers_continues answer log) rounds e []
  rw [List.append_nil] at hroll
  exact hroll

end DiceBot
