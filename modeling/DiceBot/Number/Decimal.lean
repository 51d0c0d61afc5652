import DiceBot.Number.Binary64
import DiceBot.Text.Basic

/-!
# Decimal numerals

A numeral is an optional sign, digits with an optional point among or around them, and an optional
exponent. It denotes a rational number exactly; the floating-point value of a numeral is the nearest
one, and of two nearest the one with the even significand.
-/

namespace DiceBot

/-- The number `coefficient * 10 ^ exponent`, negated if asked. -/
structure Decimal where
  /-- Whether the numeral has a minus sign. -/
  negative : Bool
  /-- All its digits as one natural number. -/
  coefficient : Nat
  /-- The power of ten by which the coefficient is scaled. -/
  exponent : Int
  deriving DecidableEq, Repr

namespace Decimal

/-- Splits an optional sign off a text; the flag tells whether it was a minus sign. -/
def readSign : Text → Bool × Text
  | '-' :: rest => (true, rest)
  | '+' :: rest => (false, rest)
  | t => (false, t)

/-- The value of a whole exponent part, which is empty or a letter e and a signed integer. -/
def readExponent? : Text → Option Int
  | [] => some 0
  | e :: rest =>
    if e = 'e' ∨ e = 'E' then
      let (negative, digits) := readSign rest
      (Text.natural? digits).map fun n => if negative then -n else n
    else none

/-- Splits the digits after a point, if there is one, off a text. -/
def readFraction : Text → Text × Text
  | '.' :: rest => (rest.takeWhile Char.isDigit, rest.dropWhile Char.isDigit)
  | t => ([], t)

/-- Reads a text that is one numeral. There is a digit on at least one side of the point. -/
def read? (t : Text) : Option Decimal :=
  let (negative, unsigned) := readSign t
  let whole := unsigned.takeWhile Char.isDigit
  let (fraction, rest) := readFraction (unsigned.dropWhile Char.isDigit)
  match Text.natural? (whole ++ fraction), readExponent? rest with
  | some coefficient, some exponent => some ⟨negative, coefficient, exponent - fraction.length⟩
  | _, _ => none

/-- The quotient rounded to a whole number, a half going to the even neighbour. -/
def divideToNearest (numerator denominator : Nat) : Nat :=
  let quotient := numerator / denominator
  let twice := 2 * (numerator % denominator)
  if twice > denominator ∨ (twice = denominator ∧ quotient % 2 = 1) then quotient + 1 else quotient

/-- A fraction multiplied by a power of the base, again as numerator and denominator. -/
def scale (numerator denominator base : Nat) : Int → Nat × Nat
  | .ofNat n => (numerator * Nat.pow base n, denominator)
  | .negSucc n => (numerator, denominator * Nat.pow base (n + 1))

/-- The exponent of the greatest power of two that is at most the fraction. -/
def binaryExponent (numerator denominator : Nat) : Int :=
  let guess : Int := Nat.log2 numerator - Nat.log2 denominator
  let (scaled, unit) := scale numerator denominator 2 (-guess)
  if scaled < unit then guess - 1 else guess

/-- The floating-point value nearest to a positive fraction. -/
def roundFraction (negative : Bool) (numerator denominator : Nat) : Binary64 :=
  let exponent := max (binaryExponent numerator denominator - 52) (-1074)
  let (scaled, unit) := scale numerator denominator 2 (-exponent)
  let significand := divideToNearest scaled unit
  if exponent > 971 ∨ (exponent = 971 ∧ significand ≥ Nat.pow 2 53) then .infinite negative
  else .finite negative significand exponent

/-- The floating-point value nearest to a numeral. Numerals beyond the range of the format are
settled by the number of their digits alone. -/
def toBinary64 (d : Decimal) : Binary64 :=
  let leading := (Text.natural d.coefficient).length + d.exponent
  if d.coefficient = 0 ∨ leading < -330 then .finite d.negative 0 0
  else if leading > 310 then .infinite d.negative
  else
    let (numerator, denominator) := scale d.coefficient 1 10 d.exponent
    roundFraction d.negative numerator denominator

end Decimal

/-- The words for values that have no numeral. -/
def Binary64.ofWord? (negative : Bool) (word : Text) : Option Binary64 :=
  if word = "inf".toList ∨ word = "infinity".toList then some (.infinite negative)
  else if word = "nan".toList then some .nan
  else none

/-- The value of a text that is a numeral, or in any letter case a word for an infinity or for a
value that is not a number. -/
def Binary64.ofText? (t : Text) : Option Binary64 :=
  match Decimal.read? t with
  | some d => some d.toBinary64
  | none =>
    let (negative, word) := Decimal.readSign t
    ofWord? negative (word.map Char.toLower)

end DiceBot
