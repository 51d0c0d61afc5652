import DiceBot.Number.Binary64
import DiceBot.Roll.Error

/-!
# Roll limits

How often one request may repeat a roll, and how long the account of a single roll may be. A repeat
count is accepted if it is a whole number from one to the limit.
-/

namespace DiceBot

/-- The limits of a request. -/
structure RollLimits where
  /-- The greatest repeat count. -/
  maxRollTimes : UInt32
  /-- The length of the longest trace that is still shown. -/
  maxDetailsSize : UInt64
  /-- A roll can be made at least once. -/
  one_le_maxRollTimes : 1 ≤ maxRollTimes.toNat := by decide
  deriving DecidableEq, Repr

/-- Why limits are refused. -/
inductive LimitsError where
  /-- No roll could ever be made. -/
  | zeroRollTimes
  deriving DecidableEq, Repr

/-- What the user is told. -/
def LimitsError.message : LimitsError → String
  | zeroRollTimes => "max_roll_times must be at least 1"

namespace RollLimits

/-- Ten rolls, and traces of five hundred characters. -/
def standard : RollLimits where
  maxRollTimes := 10
  maxDetailsSize := 500

/-- Checks limits. -/
def check (maxRollTimes : UInt32) (maxDetailsSize : UInt64) : Except LimitsError RollLimits :=
  if h : 1 ≤ maxRollTimes.toNat then .ok ⟨maxRollTimes, maxDetailsSize, h⟩
  else .error .zeroRollTimes

/-- The number of rolls that a floating-point repeat count asks for, if it is allowed: if it is
finite, nothing stands behind the point, and it lies between one and the limit. -/
def repeatCount? (limits : RollLimits) (count : Binary64) : Option Nat :=
  if count.isFinite && count.fraction.isZero && (Binary64.ofUInt32 1).le count &&
      count.le (.ofUInt32 limits.maxRollTimes) then some count.toUInt32.toNat
  else none

/-- Checks a floating-point repeat count. -/
def checkRepeatCount (limits : RollLimits) (count : Binary64) : Except RollError Nat :=
  match limits.repeatCount? count with
  | some times => .ok times
  | none => .error (.limit limits.maxRollTimes)

end RollLimits

end DiceBot
