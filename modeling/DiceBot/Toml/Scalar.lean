import DiceBot.Number.Decimal
import DiceBot.Toml.Value
import DiceBot.Text.Markup

/-!
# Numbers, dates and truth values of TOML

A value without quotes and brackets is a word of letters, digits and a few signs. The whole word has
to be a truth value, a number or a date.
-/

namespace DiceBot.Toml

/-- Whether a character may stand in a value without quotes. -/
def isScalarChar (c : Char) : Bool :=
  c.isAlphanum || c == '+' || c == '-' || c == '_' || c == '.' || c == ':'

/-- Digits between which single underscores may stand, without them. -/
def digits? (isDigit : Char → Bool) (t : Text) : Option Text :=
  let groups := t.splitOn '_'
  if groups.all fun group => !group.isEmpty && group.all isDigit then some groups.flatten else none

/-- The digits of a decimal number, which has no leading zeros. -/
def decimalDigits? (t : Text) : Option Text :=
  (digits? Char.isDigit t).filter fun
    | '0' :: _ :: _ => false
    | _ => true

/-- The value of digits in a base. -/
def inBase (base : Nat) (digits : Text) : Nat :=
  digits.foldl (fun n c => base * n + (Text.hexDigit? c).getD 0) 0

/-- Whether a character is an octal digit. -/
def isOctalDigit (c : Char) : Bool := c.isDigit && c != '8' && c != '9'

/-- Whether a character is a binary digit. -/
def isBinaryDigit (c : Char) : Bool := c == '0' || c == '1'

/-- The value of an integer as written. -/
def integer? (word : Text) : Option Int :=
  match word with
  | '0' :: 'x' :: t => (digits? (Text.hexDigit? · |>.isSome) t).map (inBase 16 ·)
  | '0' :: 'o' :: t => (digits? isOctalDigit t).map (inBase 8 ·)
  | '0' :: 'b' :: t => (digits? isBinaryDigit t).map (inBase 2 ·)
  | _ =>
    let (negative, t) := Decimal.readSign word
    (decimalDigits? t).map fun digits => if negative then -(inBase 10 digits) else inBase 10 digits

/-- Whether a character may stand among the digits of a number. -/
def isNumberChar (c : Char) : Bool := c.isDigit || c == '_'

/-- The digits after the point, if there is one, and the rest. -/
def readFraction? : Text → Option (Text × Text)
  | '.' :: t => (digits? Char.isDigit (t.takeWhile isNumberChar)).map (·, t.dropWhile isNumberChar)
  | t => some ([], t)

/-- The exponent that makes up the whole of a text, which may be empty. -/
def exponent? : Text → Option Int
  | [] => some 0
  | e :: t =>
    if e = 'e' ∨ e = 'E' then
      let (negative, t') := Decimal.readSign t
      (digits? Char.isDigit t').map fun digits =>
        if negative then -(inBase 10 digits) else inBase 10 digits
    else none

/-- Whether a decimal number rounds to infinity. -/
def roundsToInfinity (d : Decimal) : Bool :=
  match d.toBinary64 with
  | .infinite _ => true
  | _ => false

/-- The value of a word that is a number with a point or an exponent, or an infinity, or the word
for what is not a number. -/
def float? (word : Text) : Option Value :=
  let t := (Decimal.readSign word).2
  if t = "inf".toList ∨ t = "nan".toList then some (.float false)
  else
    match decimalDigits? (t.takeWhile isNumberChar), readFraction? (t.dropWhile isNumberChar) with
    | some whole, some (fraction, rest) =>
      (exponent? rest).map fun e =>
        .float (roundsToInfinity ⟨false, inBase 10 (whole ++ fraction), e - fraction.length⟩)
    | _, _ => none

/-- Reads a fixed number of digits. -/
def readDigits? (count : Nat) (t : Text) : Option (Nat × Text) :=
  if (t.take count).length = count then (Text.natural? (t.take count)).map (·, t.drop count)
  else none

/-- Reads a fixed number of digits after a certain character. -/
def readDigitsAfter? (c : Char) (count : Nat) : Text → Option (Nat × Text)
  | c' :: t => if c' = c then readDigits? count t else none
  | [] => none

/-- The number of days of a month. -/
def daysOfMonth (year month : Nat) : Nat :=
  if month = 2 then
    if year % 4 = 0 ∧ (year % 100 ≠ 0 ∨ year % 400 = 0) then 29 else 28
  else if month = 4 ∨ month = 6 ∨ month = 9 ∨ month = 11 then 30
  else 31

/-- What follows a date, if the date exists. -/
def afterDate? (t : Text) : Option Text := do
  let (year, t) ← readDigits? 4 t
  let (month, t) ← readDigitsAfter? '-' 2 t
  let (day, t) ← readDigitsAfter? '-' 2 t
  if 1 ≤ month ∧ month ≤ 12 ∧ 1 ≤ day ∧ day ≤ daysOfMonth year month then some t else none

/-- What follows the fraction of a second, if there is one. -/
def afterSecondFraction? : Text → Option Text
  | '.' :: t => if (t.takeWhile Char.isDigit).isEmpty then none else some (t.dropWhile Char.isDigit)
  | t => some t

/-- What follows the seconds of a time of day, if there are any. -/
def afterSeconds? : Text → Option Text
  | ':' :: t => do
    let (second, t) ← readDigits? 2 t
    if second ≤ 60 then afterSecondFraction? t else none
  | t => some t

/-- What follows a time of day, if the time exists. -/
def afterTime? (t : Text) : Option Text := do
  let (hour, t) ← readDigits? 2 t
  let (minute, t) ← readDigitsAfter? ':' 2 t
  if hour ≤ 23 ∧ minute ≤ 59 then afterSeconds? t else none

/-- Whether a text is empty or the distance of a time zone. -/
def isOffset : Text → Bool
  | [] => true
  | [c] => c == 'Z' || c == 'z'
  | c :: t =>
    (c == '+' || c == '-') &&
      match readDigits? 2 t with
      | some (hours, t') =>
        match readDigitsAfter? ':' 2 t' with
        | some (minutes, []) => Nat.ble hours 23 && Nat.ble minutes 59
        | _ => false
      | none => false

/-- Whether a word is a time of day with or without a time zone. -/
def isZonedTime (t : Text) : Bool :=
  match afterTime? t with
  | some rest => isOffset rest
  | none => false

/-- Whether a word is a date, a time of day, or both. -/
def isDate (word : Text) : Bool :=
  match afterDate? word with
  | some [] => true
  | some (c :: t) => (c == 'T' || c == 't') && isZonedTime t
  | none => afterTime? word == some []

/-- The value of a word. -/
def scalar? (word : Text) : Option Value :=
  if word = "true".toList then some (.boolean true)
  else if word = "false".toList then some (.boolean false)
  else match integer? word, float? word with
    | some n, _ => some (.integer n)
    | none, some value => some value
    | none, none => if isDate word then some .date else none

/-- Reads a value without quotes and brackets. A date and a time of day may be separated by a
blank. -/
def readScalar? (t : Text) : Option (Value × Text) :=
  let word := t.takeWhile isScalarChar
  let rest := t.dropWhile isScalarChar
  match afterDate? word, rest with
  | some [], ' ' :: next =>
    if (next.head?.map Char.isDigit).getD false then
      if isZonedTime (next.takeWhile isScalarChar) then some (.date, next.dropWhile isScalarChar)
      else none
    else some (.date, rest)
  | _, _ => (scalar? word).map (·, rest)

end DiceBot.Toml
