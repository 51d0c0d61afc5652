import DiceBot.Dice.Roller

/-!
# Dice from a seed

A roller for play: the numbers are those of a counter whose bits are mixed, so a seed fixes every
face of a run and no memory is needed between dice.
-/

namespace DiceBot.Roller

/-- The distance between neighbouring numbers of the counter. -/
def seedStep : UInt64 := 0x9E3779B97F4A7C15

/-- Mixes the bits of a number. -/
def mixBits (n : UInt64) : UInt64 :=
  let a := (n ^^^ (n >>> 30)) * 0xBF58476D1CE4E5B9
  let b := (a ^^^ (a >>> 27)) * 0x94D049BB133111EB
  b ^^^ (b >>> 31)

/-- The roller of a seed. -/
def seeded (seed : UInt64) : Roller :=
  drawing fun i => (mixBits (seed + seedStep * UInt64.ofNat (i + 1))).toNat

end DiceBot.Roller
