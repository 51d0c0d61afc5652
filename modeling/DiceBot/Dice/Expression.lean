import DiceBot.Dice.Token

/-!
# Reading expressions

An expression is read from its tokens in one pass. Operators of one kind group to the left,
multiplication binds closer than addition, and a minus sign before an operand closer than both. What
waits for its right operand is kept on a level for each open parenthesis.
-/

namespace DiceBot

variable {δ ε : Type}

/-- What waits, inside one pair of parentheses, for its right operand. -/
structure Level (δ : Type) where
  /-- The left operand of an additive operator. -/
  sum : Option (Arith δ × Operator)
  /-- The left operand of a multiplicative operator. -/
  product : Option (Arith δ × Operator)
  /-- The number of minus signs read before the next operand. -/
  minuses : Nat
  deriving DecidableEq, Repr

namespace Level

/-- Nothing is waiting. -/
def start : Level δ := ⟨none, none, 0⟩

/-- Completes an operator that waits, if one does. -/
def complete : Option (Arith δ × Operator) → Arith δ → Arith δ
  | none, right => right
  | some (left, op), right => .binary op left right

/-- An operand under a number of minus signs. -/
def negated : Nat → Arith δ → Arith δ
  | 0, e => e
  | n + 1, e => .negate (negated n e)

/-- The product that ends with an operand. -/
def productWith (level : Level δ) (operand : Arith δ) : Arith δ :=
  complete level.product (negated level.minuses operand)

/-- The sum that ends with an operand. -/
def sumWith (level : Level δ) (operand : Arith δ) : Arith δ :=
  complete level.sum (level.productWith operand)

/-- The level after an operand and an operator. -/
def next (level : Level δ) (operand : Arith δ) (op : Operator) : Level δ :=
  if op.isAdditive then ⟨some (level.sumWith operand, op), none, 0⟩
  else ⟨level.sum, some (level.productWith operand, op), 0⟩

end Level

namespace Arith

/-- Reads the tokens that follow. `focus` is the operand just read, if an operator may follow, and
`outer` holds the levels of the open parentheses, innermost first. -/
def resume (level : Level δ) (outer : List (Level δ)) :
    (focus : Option (Arith δ)) → List (Token δ) → Option (Arith δ)
  | none, .number n :: ts => resume level outer (some (.number n)) ts
  | none, .dice d :: ts => resume level outer (some (.dice d)) ts
  | none, .operator .subtract :: ts =>
    resume { level with minuses := level.minuses + 1 } outer none ts
  | none, .opening :: ts => resume .start (level :: outer) none ts
  | some e, .operator op :: ts => resume (level.next e op) outer none ts
  | some e, .closing :: ts =>
    match outer with
    | [] => none
    | enclosing :: outer' => resume enclosing outer' (some (level.sumWith e)) ts
  | some e, [] => if outer.isEmpty then some (level.sumWith e) else none
  | _, _ => none

/-- The expression of a list of tokens. -/
def ofTokens? (ts : List (Token δ)) : Option (Arith δ) := resume .start [] none ts

end Arith

namespace Notation

/-- Reads an expression in which the number of dice and the faces may be missing. -/
def readOpen? (t : Text) : Option (Arith Term) := (tokens? t).bind Arith.ofTokens?

/-- Reads an expression in which every dice term has its faces. -/
def read? (t : Text) : Option (Arith Dice) := (readOpen? t).bind (Arith.mapM? Term.dice?)

end Notation

end DiceBot
