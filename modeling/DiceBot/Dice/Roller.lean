/-!
# Sources of faces

Every face comes from a roller, which is asked for one die after another and keeps a log of what it
was asked for. A roller made from a source of random numbers asks it for a number from one to the
number of sides, and moves an answer outside that range to the nearer end of it, so no face is out
of range.
-/

namespace DiceBot

/-- A request for a random number in an inclusive range. -/
structure Request where
  /-- The least number that may be answered. -/
  low : Int
  /-- The greatest number that may be answered. -/
  high : Int
  deriving DecidableEq, Repr

namespace Request

/-- The request for the face of a die; a die without sides is asked for like a die with one. -/
def forDie (sides : Nat) : Request := ⟨1, max sides 1⟩

/-- An answer moved into the range of the request. -/
def clamp (r : Request) (answer : Int) : Int := max r.low (min answer r.high)

/-- The face that an answer to the request makes a die show. -/
def face (r : Request) (answer : Int) : Nat := (r.clamp answer).toNat

/-- A face is one to the number of sides, whatever is answered. -/
theorem face_forDie_range (sides : Nat) (answer : Int) :
    1 ≤ (forDie sides).face answer ∧ (forDie sides).face answer ≤ max sides 1 := by
  simp only [face, clamp, forDie]
  omega

end Request

/-- Gives the face of a die with a number of sides, and its log with the request for it. -/
abbrev Roller := (sides : Nat) → (log : List Request) → Nat × List Request

namespace Roller

/-- The roller that asks a source for each die; `answer i` answers request number `i`. -/
def ofAnswers (answer : Nat → Request → Int) : Roller := fun sides log =>
  let request := Request.forDie sides
  (request.face (answer log.length request), log ++ [request])

/-- The roller that hands out a list of faces in order and starts over at its end. -/
def ofFaces (faces : List Int) : Roller :=
  ofAnswers fun i _ => faces.getD (i % faces.length) 1

/-- The roller that draws from a source of numbers; a die without sides shows zero. -/
def drawing (draw : Nat → Nat) : Roller := fun sides log =>
  (if sides = 0 then 0 else draw log.length % sides + 1, log ++ [Request.forDie sides])

end Roller

end DiceBot
