import DiceBot.Dice.Term
import DiceBot.Text.Blank

/-!
# Tokens of dice notation

A text of dice notation is cut into numbers, dice terms, operator signs and parentheses. Blanks
separate tokens and never occur within one. A number has no leading zeros; a number that stands
alone fits 32 bits with sign, a number inside a dice term fits a byte.
-/

namespace DiceBot

/-- A token of an expression over dice of type `δ`. -/
inductive Token (δ : Type) where
  | number (value : Nat)
  | dice (dice : δ)
  | operator (op : Operator)
  | opening
  | closing
  deriving DecidableEq, Repr

/-- Replaces the dice of a token. -/
def Token.map {δ ε : Type} (f : δ → ε) : Token δ → Token ε
  | number n => number n
  | dice d => dice (f d)
  | operator op => operator op
  | opening => opening
  | closing => closing

namespace Notation

/-- The greatest number that may stand alone. -/
def maxNumber : Nat := Nat.pow 2 31 - 1

/-- The greatest number inside a dice term. -/
def maxByte : Nat := UInt8.size - 1

/-- Reads a number: a zero, or as many digits as follow a digit other than zero. -/
def readNumber? : Text → Option (Nat × Text)
  | [] => none
  | c :: rest =>
    if c = '0' then some (0, rest)
    else if c.isDigit then
      some (Nat.ofDigitChars 10 (c :: rest.takeWhile Char.isDigit) 0, rest.dropWhile Char.isDigit)
    else none

/-- Reads a number that fits a byte. -/
def readByte? (t : Text) : Option (Nat × Text) :=
  (readNumber? t).filter fun r => Nat.ble r.1 maxByte

/-- Reads a number that fits a byte, if a number follows. -/
def readOptionalByte? (t : Text) : Option (Option Nat × Text) :=
  match readNumber? t with
  | none => some (none, t)
  | some (n, rest) => if n ≤ maxByte then some (some n, rest) else none

/-- Reads the sign of a comparison; no sign means equality. -/
def readComparison : Text → Comparison × Text
  | '>' :: '=' :: rest => (.atLeast, rest)
  | '<' :: '=' :: rest => (.atMost, rest)
  | '>' :: rest => (.above, rest)
  | '<' :: rest => (.below, rest)
  | '=' :: rest => (.equal, rest)
  | t => (.equal, t)

/-- Reads a condition. -/
def readCondition? (t : Text) : Option (Condition × Text) :=
  let (comparison, rest) := readComparison t
  (readByte? rest).map fun r => (⟨comparison, r.1⟩, r.2)

/-- Reads what follows the letters of a reroll. -/
def readReroll? (untilNone : Bool) (t : Text) : Option (Modifier × Text) :=
  (readCondition? t).map fun r => (.reroll untilNone r.1, r.2)

/-- Reads what follows the letters of an explosion. -/
def readExplode (untilNone : Bool) (t : Text) : Modifier × Text :=
  match readCondition? t with
  | some (c, rest) => (.explode untilNone (some c), rest)
  | none => (.explode untilNone none, t)

/-- Reads the number of dice to keep, which is one if it is missing. -/
def readKeep? (keep : Nat → Modifier) (t : Text) : Option (Modifier × Text) :=
  (readOptionalByte? t).map fun r => (keep (r.1.getD 1), r.2)

/-- Reads the bound of a modifier that has to have one. -/
def readBound? (modifier : Nat → Modifier) (t : Text) : Option (Modifier × Text) :=
  (readByte? t).map fun r => (modifier r.1, r.2)

/-- Reads one modifier. -/
def readModifier? : Text → Option (Modifier × Text)
  | 'r' :: 'r' :: rest => readReroll? true rest
  | 'r' :: rest => readReroll? false rest
  | 'x' :: 'o' :: rest => some (readExplode false rest)
  | 'x' :: rest => some (readExplode true rest)
  | 'k' :: 'l' :: rest => readKeep? .keepLowest rest
  | 'k' :: 'h' :: rest => readKeep? .keepHighest rest
  | 'k' :: rest => readKeep? .keepHighest rest
  | 'm' :: 'i' :: 'n' :: rest => readBound? .raiseTo rest
  | 'm' :: 'a' :: 'x' :: rest => readBound? .lowerTo rest
  | _ => none

/-- Reads modifiers as long as there are any, at most `bound` of them. -/
def readModifiers : (bound : Nat) → Text → List Modifier × Text
  | 0, t => ([], t)
  | bound + 1, t =>
    match readModifier? t with
    | none => ([], t)
    | some (m, rest) =>
      let (ms, rest') := readModifiers bound rest
      (m :: ms, rest')

/-- Reads what follows the letter of a dice term. -/
def readTerm? (count : Option Nat) (t : Text) : Option (Term × Text) :=
  (readOptionalByte? t).map fun r =>
    let (modifiers, rest) := readModifiers r.2.length r.2
    (⟨count, r.1, modifiers⟩, rest)

/-- Reads what follows a number: a number that the letter of a dice term follows counts dice. -/
def readAfterNumber? (n : Nat) (t : Text) : Option (Token Term × Text) :=
  match t with
  | 'd' :: rest =>
    if n ≤ maxByte then (readTerm? (some n) rest).map fun r => (.dice r.1, r.2) else none
  | _ => if n ≤ maxNumber then some (.number n, t) else none

/-- Reads one token. -/
def readToken? : Text → Option (Token Term × Text)
  | '(' :: rest => some (.opening, rest)
  | ')' :: rest => some (.closing, rest)
  | 'd' :: rest => (readTerm? none rest).map fun r => (.dice r.1, r.2)
  | c :: rest =>
    match Operator.ofSign? c with
    | some op => some (.operator op, rest)
    | none => (readNumber? (c :: rest)).bind fun r => readAfterNumber? r.1 r.2
  | [] => none

/-- Reads tokens, at most `bound` of them, to the end of a text. -/
def readTokens? (bound : Nat) (t : Text) : Option (List (Token Term)) :=
  match bound, Text.trimStart t with
  | _, [] => some []
  | 0, _ :: _ => none
  | bound + 1, c :: rest =>
    match readToken? (c :: rest) with
    | none => none
    | some (token, rest') => (readTokens? bound rest').map (token :: ·)

/-- The tokens of a text. A token has at least one character, so there are no more tokens than
characters. -/
def tokens? (t : Text) : Option (List (Token Term)) := readTokens? t.length t

end Notation

end DiceBot
