import DiceBot.Dice.Evaluation

/-!
# Failures of a request

A request fails because of its form, its repeat count or its dice, which the user is told in place
of a result, or because a private message could not be delivered, which only the caller is told.
-/

namespace DiceBot

/-- What is wrong with the form of a payload. -/
inductive FormatIssue where
  /-- There is more than one separator of repeat count and dice. -/
  | tooManySeparators
  /-- There are more than two words. -/
  | tooManyTokens
  deriving DecidableEq, Repr

/-- An explanation for the operator; the user is not told. -/
def FormatIssue.message : FormatIssue → Text
  | tooManySeparators => "more than one '#' separator".toList
  | tooManyTokens => "more than two whitespace tokens".toList

/-- A private message could not be delivered. -/
structure DeliveryError where
  /-- The reason that the channel gave. -/
  reason : Text
  deriving DecidableEq, Repr

/-- What the caller is told. -/
def DeliveryError.message (e : DeliveryError) : Text := "暗骰结果发送失败：".toList ++ e.reason

/-- Why a request failed. -/
inductive RollError where
  /-- The payload is malformed. -/
  | format (issue : FormatIssue)
  /-- The repeat count is not a whole number from one to the limit. -/
  | limit (max : UInt32)
  /-- The dice could not be evaluated. -/
  | evaluation (error : EvalError)
  /-- The result could not be delivered. -/
  | delivery (error : DeliveryError)
  deriving DecidableEq, Repr

namespace RollError

/-- What the user is told, or the caller if it is a matter of delivery. -/
def message : RollError → Text
  | format _ => "表达式错误".toList
  | limit max => "投掷次数必须是 1 到 ".toList ++ Text.natural max.toNat ++ " 之间的整数。".toList
  | evaluation e => e.message
  | delivery e => e.message

/-- The reply for the channel of the request; a failed delivery has none. -/
def reply : RollError → Except DeliveryError Text
  | delivery e => .error e
  | e => .ok e.message

end RollError

end DiceBot
