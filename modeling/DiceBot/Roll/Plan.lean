import DiceBot.Number.Decimal
import DiceBot.Roll.Limits
import DiceBot.Text.Blank
import DiceBot.Text.Markup

/-!
# Roll plans

A payload names dice, before them an optional repeat count with a separator, and after a blank an
optional reason. Splitting it gives a plan: how often to roll, what, and why. Faults of form are
found before the repeat count is looked at.
-/

namespace DiceBot

/-- A dice expression must not be blank. -/
structure BlankExpression where
  deriving DecidableEq, Repr

/-- What the user is told. -/
def BlankExpression.message (_ : BlankExpression) : String := "dice expression must not be empty"

/-- A text that is not blank. -/
def checkNotBlank (t : Text) : Except BlankExpression Text :=
  if Text.isBlank t then .error {} else .ok t

/-- A text, or another in place of a blank one. -/
def orIfBlank (fallback t : Text) : Text := if Text.isBlank t then fallback else t

/-- How often to roll, what, and why. -/
structure RollPlan where
  /-- How often the dice are rolled. -/
  repeatCount : Nat
  /-- The dice as the user wrote them. -/
  written : Text
  /-- The reason that the user gave. -/
  reason : Option Text
  deriving DecidableEq, Repr

namespace RollPlan

/-- The dice as the evaluator gets them. -/
def dice (plan : RollPlan) : Text := Text.lower plan.written

/-- The character between repeat count and dice. -/
def separator : Char := '#'

/-- The dice as they are shown to the user, with the repeat count if there is more than one roll. -/
def display (plan : RollPlan) : Text :=
  if 1 < plan.repeatCount then Text.natural plan.repeatCount ++ separator :: plan.written
  else plan.written

/-- The dice that are rolled if none are named. -/
def defaultDice : Text := ['d']

/-- The repeat count that a text asks for; a text that is no number asks for none. -/
def readRepeatCount (limits : RollLimits) (t : Text) : Except RollError Nat :=
  limits.checkRepeatCount ((Binary64.ofText? (Text.trim t)).getD .nan)

/-- Splits the first word of a payload, already unescaped, at its separator. -/
def ofExpression (limits : RollLimits) (expression : Text) (reason : Option Text) :
    Except RollError RollPlan :=
  if 1 < expression.count separator then .error (.format .tooManySeparators)
  else match expression.dropWhile (· != separator) with
    | [] => .ok ⟨1, orIfBlank defaultDice expression, reason⟩
    | _ :: dice =>
      (readRepeatCount limits (expression.takeWhile (· != separator))).map fun times =>
        ⟨times, orIfBlank defaultDice dice, reason⟩

/-- The plan of a payload. -/
def ofPayload (limits : RollLimits) (payload : Text) : Except RollError RollPlan :=
  match Text.words payload with
  | [] => ofExpression limits (Text.unescape defaultDice) none
  | [expression] => ofExpression limits (Text.unescape expression) none
  | [expression, reason] => ofExpression limits (Text.unescape expression) (some reason)
  | _ => .error (.format .tooManyTokens)

end RollPlan

end DiceBot
