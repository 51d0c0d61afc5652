import DiceBot.Roll.Plan

/-!
# Replies

The text of a roll: who rolled and why, then the dice and what came of them. A single roll shows its
trace unless that is longer than allowed; repeated rolls show their values only.
-/

namespace DiceBot

namespace Reply

/-- The line that says who rolls, and why if there is a reason. -/
def attribution (name : Text) : Option Text → Text
  | some reason => name ++ " 因为 ".toList ++ reason ++ " 投掷:\n".toList
  | none => name ++ " 投掷:\n".toList

/-- What the channel is told of a hidden roll. -/
def hiddenStub (name : Text) : Text := name ++ " 投掷了暗骰。".toList

/-- The sign between dice, trace and value. -/
def equals : Text := [' ', '=', ' ']

/-- The value of an outcome. -/
def value (outcome : Outcome) : Text := Text.integer outcome.value.toInt

/-- What is shown after the dice of a single roll: the trace if it is short enough, and the
value. -/
def single (limits : RollLimits) (outcome : Outcome) : Text :=
  if limits.maxDetailsSize.toNat < outcome.trace.length then equals ++ value outcome
  else equals ++ outcome.trace ++ equals ++ value outcome

/-- What is shown after the dice of repeated rolls: the values in order. -/
def repeated (outcomes : List Outcome) : Text :=
  equals ++ Text.join [',', ' '] (outcomes.map value)

/-- The reply to a plan with these outcomes. -/
def render (limits : RollLimits) (name : Text) (plan : RollPlan) (outcomes : List Outcome) : Text :=
  attribution name plan.reason ++ plan.display ++
    match outcomes with
    | [outcome] => if plan.repeatCount = 1 then single limits outcome else repeated [outcome]
    | _ => repeated outcomes

end Reply

end DiceBot
