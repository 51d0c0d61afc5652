import DiceBot.Text.Blank

/-!
# Roll requests

A request is a payload and whether its result goes to the user alone. The arguments of the explicit
command may hold a flag for that anywhere; all other arguments make up the payload.
-/

namespace DiceBot

/-- A request for a roll. -/
structure RollRequest where
  /-- The payload: repeat count, dice and reason. -/
  payload : Text
  /-- Whether the result goes to the user alone. -/
  hidden : Bool
  deriving DecidableEq, Repr

namespace RollRequest

/-- The words that ask for a hidden roll. -/
def hiddenFlags : List Text := ["-rh".toList, "--rh".toList]

/-- Whether a word asks for a hidden roll. -/
def isHiddenFlag (word : Text) : Bool := hiddenFlags.contains word

/-- The request of the explicit command with these arguments. -/
def ofArguments (arguments : Text) : RollRequest where
  payload := Text.join [' '] ((Text.words arguments).filter (!isHiddenFlag ·))
  hidden := (Text.words arguments).any isHiddenFlag

end RollRequest

end DiceBot
