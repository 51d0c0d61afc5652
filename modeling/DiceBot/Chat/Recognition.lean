import DiceBot.Chat.Request
import DiceBot.Text.DecimalDigit
import DiceBot.Text.Letter

/-!
# Recognizing rolls

A message that is directed at the bot is a request for a roll if one of five rules fits it, tried in
order: the explicit command, the marker of a hidden roll, the marker of a roll, a repeat count, and
a bare die. Markers and bare dice must not run on into a word, so that conversation is left alone.
-/

namespace DiceBot

/-- The rules by which a message is recognized. -/
inductive Rule where
  /-- The explicit command. -/
  | command
  /-- The marker of a hidden roll. -/
  | hidden
  /-- The marker of a roll. -/
  | plain
  /-- A repeat count with its separator. -/
  | repeated
  /-- A bare die of the family with this small letter. -/
  | die (family : Char)
  deriving DecidableEq, Repr

/-- A recognized message. -/
structure Recognized where
  /-- The rule that fits. -/
  rule : Rule
  /-- What is asked for. -/
  request : RollRequest
  deriving DecidableEq, Repr

namespace Recognition

/-- The word of the explicit command. -/
def commandWord : Text := ['r', 'o', 'l', 'l']

/-- The marker of a hidden roll. -/
def hiddenMarker : Text := ['r', 'h']

/-- The marker of a roll. -/
def plainMarker : Text := ['r']

/-- Whether a character is a letter from a to z, disregarding case as Unicode does: the long s and
the Kelvin sign are other cases of s and k. -/
def isBasicLetter (c : Char) : Bool := c.isAlpha || c == 'ſ' || c == '\u212A'

/-- Whether a text does not begin with a letter. -/
def startsNoWord : Text → Bool
  | [] => true
  | c :: _ => !Text.isLetter c

/-- Whether a text may follow a marker: it does not begin with a letter, or only its first character
is the letter of a notation. -/
def mayFollowMarker (t : Text) : Bool :=
  startsNoWord t ||
    match t with
    | [] => true
    | c :: rest => isBasicLetter c && startsNoWord rest

/-- What follows a marker, if it may. -/
def afterMarker? (marker body : Text) : Option Text :=
  (Text.after? marker body).filter mayFollowMarker

/-- The arguments of the explicit command. -/
def commandArguments? (body : Text) : Option Text :=
  (Text.after? commandWord body).filter fun
    | [] => true
    | c :: _ => Text.isBlankChar c

/-- Whether a text begins with a repeat count and its separator. -/
def startsWithRepeatCount (body : Text) : Bool :=
  match body.takeWhile Text.isDecimalDigit, body.dropWhile Text.isDecimalDigit with
  | _ :: _, '#' :: _ => true
  | _, _ => false

/-- The small letters of the families of dice. -/
def families : List Char := ['d', 'p', 'a', 'c', 'f']

/-- The family of a letter in either case. -/
def family? (c : Char) : Option Char :=
  if families.contains c.toLower then some c.toLower else none

/-- The characters other than digits that may follow a bare die. -/
def dieFollowers : List Char := ['+', '-', '*', '/', '(', ')', '<', '>', '=', '!', '#']

/-- Whether a text may follow the letter of a bare die. -/
def mayFollowDie : Text → Bool
  | [] => true
  | c :: _ => Text.isDecimalDigit c || dieFollowers.contains c

/-- The family of the bare die that a text begins with. -/
def bareDie? (body : Text) : Option Char :=
  match body.dropWhile Text.isDecimalDigit with
  | [] => none
  | c :: rest => if mayFollowDie rest then family? c else none

/-- The request that a text, without blanks at its ends, makes of the bot. -/
def ofBody? (body : Text) : Option Recognized :=
  match commandArguments? body with
  | some arguments => some ⟨.command, .ofArguments arguments⟩
  | none =>
  match afterMarker? hiddenMarker body with
  | some payload => some ⟨.hidden, ⟨Text.trim payload, true⟩⟩
  | none =>
  match afterMarker? plainMarker body with
  | some payload => some ⟨.plain, ⟨Text.trim payload, false⟩⟩
  | none =>
  if startsWithRepeatCount body then some ⟨.repeated, ⟨body, false⟩⟩
  else (bareDie? body).map fun family => ⟨.die family, ⟨body, false⟩⟩

/-- The part of a text that the rules look at: without the command prefix, if the text begins with
it, and without the blanks around. -/
def body (commandPrefix : Option Text) (text : Text) : Text :=
  let trimmed := Text.trimStart text
  Text.trim (match commandPrefix with
    | some lead => (Text.after? lead trimmed).getD trimmed
    | none => trimmed)

/-- Recognizes a text that was found to begin with a command prefix or to be addressed to the bot;
any other text asks nothing of the bot. -/
def classify (commandPrefix : Option Text) (addressed : Bool) (text : Text) : Option Recognized :=
  if commandPrefix.isNone && !addressed then none else ofBody? (body commandPrefix text)

end Recognition

end DiceBot
