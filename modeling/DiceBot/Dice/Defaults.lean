import DiceBot.Dice.Term

/-!
# Default dice

A letter d with no number of dice before it or no faces after it gets the configured ones. The text
is looked at letter by letter: a digit or a closing parenthesis before the letter counts as a number
of dice, a digit or an opening parenthesis after it as faces.
-/

namespace DiceBot

/-- The number of dice and the faces of a bare letter d. -/
structure DiceDefaults where
  /-- How many dice are rolled. -/
  count : UInt32
  /-- How many sides each die has. -/
  faces : UInt32
  deriving DecidableEq, Repr

namespace DiceDefaults

/-- One die with a hundred sides. -/
def standard : DiceDefaults := ⟨1, 100⟩

/-- Whether the character before a letter d ends a number of dice. -/
def endsCount : Option Char → Bool
  | some c => c.isDigit || c == ')'
  | none => false

/-- Whether the character after a letter d begins its faces. -/
def beginsFaces : Option Char → Bool
  | some c => c.isDigit || c == '('
  | none => false

/-- Fills in the gaps of a text that follows the character `before`. -/
def expandAfter (defaults : DiceDefaults) (before : Option Char) : Text → Text
  | [] => []
  | c :: rest =>
    if c = 'd' then
      (if endsCount before then [] else Text.natural defaults.count.toNat) ++ 'd' ::
        (if beginsFaces rest.head? then [] else Text.natural defaults.faces.toNat) ++
        expandAfter defaults (some c) rest
    else c :: expandAfter defaults (some c) rest

/-- A text with the gaps around each letter d filled in. -/
def expand (defaults : DiceDefaults) (t : Text) : Text := expandAfter defaults none t

end DiceDefaults

end DiceBot
