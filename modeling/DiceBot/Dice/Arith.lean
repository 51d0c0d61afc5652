import DiceBot.Text.Basic

/-!
# Arithmetic over dice

Expressions over numbers and dice with negation and five binary operators. The kind of dice is a
parameter, so one type serves dice as written, dice to be rolled and dice that have been rolled, and
going from one to the next leaves operators and grouping alone.
-/

namespace DiceBot

/-- The binary operators. -/
inductive Operator where
  | add
  | subtract
  | multiply
  /-- Division rounding toward zero. -/
  | divide
  /-- Division rounding up. -/
  | divideUp
  deriving DecidableEq, Repr

namespace Operator

/-- The sign of an operator. -/
def sign : Operator → Char
  | add => '+'
  | subtract => '-'
  | multiply => '*'
  | divide => '/'
  | divideUp => '\\'

/-- The operator of a sign. -/
def ofSign? : Char → Option Operator
  | '+' => some add
  | '-' => some subtract
  | '*' => some multiply
  | '/' => some divide
  | '\\' => some divideUp
  | _ => none

/-- Whether an operator binds like addition rather than like multiplication. -/
def isAdditive : Operator → Bool
  | add | subtract => true
  | multiply | divide | divideUp => false

end Operator

/-- An expression over dice of type `δ`. -/
inductive Arith (δ : Type) where
  /-- A number. -/
  | number (value : Nat)
  /-- Dice. -/
  | dice (dice : δ)
  /-- A negated expression. -/
  | negate (operand : Arith δ)
  /-- Two expressions under an operator. -/
  | binary (op : Operator) (left right : Arith δ)
  deriving DecidableEq, Repr

namespace Arith

variable {δ ε : Type}

/-- Replaces the dice and keeps everything else. -/
def map (f : δ → ε) : Arith δ → Arith ε
  | number n => number n
  | dice d => dice (f d)
  | negate e => negate (map f e)
  | binary op l r => binary op (map f l) (map f r)

/-- Replaces the dice if every one of them can be replaced. -/
def mapM? (f : δ → Option ε) : Arith δ → Option (Arith ε)
  | number n => some (number n)
  | dice d => (f d).map dice
  | negate e => (mapM? f e).map negate
  | binary op l r =>
    match mapM? f l, mapM? f r with
    | some l', some r' => some (binary op l' r')
    | _, _ => none

/-- The dice from left to right. -/
def leaves : Arith δ → List δ
  | number _ => []
  | dice d => [d]
  | negate e => leaves e
  | binary _ l r => leaves l ++ leaves r

@[simp] theorem leaves_map (f : δ → ε) (e : Arith δ) : (e.map f).leaves = e.leaves.map f := by
  induction e with
  | number n => rfl
  | dice d => rfl
  | negate e ih => exact ih
  | binary op l r ihl ihr => simp [map, leaves, ihl, ihr]

/-- Whether an operand is put in parentheses under an operator: if one of the two binds like
addition and the other like multiplication. -/
def isEnclosed (op : Operator) : Arith δ → Bool
  | binary inner _ _ => op.isAdditive != inner.isAdditive
  | _ => false

/-- A text in parentheses. -/
def parenthesized (t : Text) : Text := '(' :: t ++ [')']

/-- Describes an expression, given how its dice are described. Grouping to the right is not shown
where operators bind alike. -/
def describe (describeDice : δ → Text) : Arith δ → Text
  | number n => Text.natural n
  | dice d => describeDice d
  | negate e =>
    match e with
    | number _ | dice _ => '-' :: describe describeDice e
    | _ => '-' :: parenthesized (describe describeDice e)
  | binary op l r =>
    let operand (e : Arith δ) (t : Text) : Text := if isEnclosed op e then parenthesized t else t
    operand l (describe describeDice l) ++ [' ', op.sign, ' '] ++
      operand r (describe describeDice r)

end Arith

end DiceBot
