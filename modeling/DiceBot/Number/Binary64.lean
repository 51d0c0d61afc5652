/-!
# Binary floating point

The values of the 64-bit binary format: a finite one is a signed whole significand times a power of
two, so each question about it is a question about whole numbers and has an exact answer.
-/

namespace DiceBot

/-- A value of the 64-bit binary floating-point format. -/
inductive Binary64 where
  /-- Not a number, with any payload. -/
  | nan
  /-- One of the infinities. -/
  | infinite (negative : Bool)
  /-- The number `significand * 2 ^ exponent`, negated if asked. -/
  | finite (negative : Bool) (significand : Nat) (exponent : Int)
  deriving DecidableEq, Repr

namespace Binary64

/-- Decodes a pattern of one sign bit, eleven exponent bits and fifty-two fraction bits. -/
def ofBits (bits : UInt64) : Binary64 :=
  let negative := bits.toNat / Nat.pow 2 63 == 1
  let exponent : Nat := bits.toNat / Nat.pow 2 52 % Nat.pow 2 11
  let fraction := bits.toNat % Nat.pow 2 52
  if exponent = 0x7FF then (if fraction = 0 then .infinite negative else .nan)
  else if exponent = 0 then .finite negative fraction (-1074)
  else .finite negative (Nat.pow 2 52 + fraction) ((exponent : Int) - 1075)

/-- A number that fits 32 bits, which the format holds exactly. -/
def ofUInt32 (n : UInt32) : Binary64 := .finite false n.toNat 0

/-- Whether a value is a number, not an infinity. -/
def isFinite : Binary64 → Bool
  | .finite .. => true
  | _ => false

/-- Whether a value is zero, of either sign. -/
def isZero : Binary64 → Bool
  | .finite _ significand _ => significand == 0
  | _ => false

/-- The whole part of `significand * 2 ^ exponent`. -/
def wholePart (significand : Nat) : Int → Nat
  | .ofNat n => significand * Nat.pow 2 n
  | .negSucc n => significand / Nat.pow 2 (n + 1)

/-- What is left of the significand when the whole part is taken out. -/
def remainder (significand : Nat) : Int → Nat
  | .ofNat _ => 0
  | .negSucc n => significand % Nat.pow 2 (n + 1)

/-- The part of a value behind the point, with its sign. -/
def fraction : Binary64 → Binary64
  | .finite negative significand exponent =>
    .finite negative (remainder significand exponent) exponent
  | _ => .nan

/-- Whether `significand * 2 ^ exponent` is at most another such number. -/
def magnitudeLe (significand : Nat) (exponent : Int) (significand' : Nat) (exponent' : Int) :
    Bool :=
  match exponent - exponent' with
  | .ofNat n => Nat.ble (significand * Nat.pow 2 n) significand'
  | .negSucc n => Nat.ble significand (significand' * Nat.pow 2 (n + 1))

/-- Whether a value is at most another. What is not a number is comparable with nothing, and the two
zeros are equal. -/
def le : Binary64 → Binary64 → Bool
  | .nan, _ | _, .nan => false
  | .infinite negative, .infinite negative' => negative || !negative'
  | .infinite negative, .finite .. => negative
  | .finite .., .infinite negative => !negative
  | .finite false m e, .finite false m' e' => magnitudeLe m e m' e'
  | .finite true m e, .finite true m' e' => magnitudeLe m' e' m e
  | .finite true .., .finite false .. => true
  | .finite false m _, .finite true m' _ => m == 0 && m' == 0

/-- The greatest number of 32 bits. -/
def maxUInt32 : UInt32 := 4294967295

/-- The whole part of a value as a number of 32 bits. A value outside the range becomes the nearer
end of it, and what is not a number becomes zero. -/
def toUInt32 : Binary64 → UInt32
  | .nan => 0
  | .infinite negative => if negative then 0 else maxUInt32
  | .finite true _ _ => 0
  | .finite false significand exponent =>
    if h : wholePart significand exponent < UInt32.size then .ofNatLT _ h else maxUInt32

end Binary64

end DiceBot
