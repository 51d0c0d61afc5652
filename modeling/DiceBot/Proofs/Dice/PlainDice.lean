import Mathlib.Algebra.BigOperators.Ring.Finset
import Mathlib.Algebra.Order.BigOperators.Group.List
import DiceBot.Proofs.Dice.Expansion

/-!
# Dice without modifiers

Written with both its numbers, a dice term has no gaps, whatever the defaults are. Without modifiers
each of its dice counts as it was rolled.
-/

namespace DiceBot

/-- Dice as they are written with both numbers. -/
def Dice.asWritten (d : Dice) : Term := ⟨some d.count, some d.sides, d.modifiers⟩

/-- Written out, terms have no gaps. -/
theorem Arith.mapM?_dice?_map_asWritten (e : Arith Dice) :
    mapM? Term.dice? (e.map Dice.asWritten) = some e := by
  induction e with
  | number n => rfl
  | dice d => rfl
  | negate e ih => simp [map, mapM?, ih]
  | binary op l r ihl ihr => simp [map, mapM?, ihl, ihr]

namespace DiceDefaults

variable (defaults : DiceDefaults)

/-- A text is left alone if one behind a piece without the letter d is. -/
theorem expandAfter_append_eq_self {piece rest : Text} (hpiece : 'd' ∉ piece)
    (hrest : ∀ before, defaults.expandAfter before rest = rest) (before : Option Char) :
    defaults.expandAfter before (piece ++ rest) = piece ++ rest := by
  rw [defaults.expandAfter_append hpiece, hrest]

/-- A dice term with both its numbers is left alone. -/
theorem expandAfter_asWritten {d : Dice} {piece rest : Text} (h : d.asWritten.IsWritten piece)
    (hrest : ∀ before, defaults.expandAfter before rest = rest) (before : Option Char) :
    defaults.expandAfter before (piece ++ rest) = piece ++ rest := by
  unfold Dice.asWritten at h
  cases h with
  | @mk _ _ _ t hcount hfaces hmodifiers =>
    have htail := defaults.expandAfter_append_eq_self hmodifiers.d_not_mem hrest
    have hnumeral :=
      defaults.expandAfter_append_eq_self (Notation.d_not_mem_natural d.sides) htail (some 'd')
    simp only [Notation.numeral, List.append_assoc, List.cons_append]
    rw [defaults.expandAfter_append (Notation.d_not_mem_natural d.count), expandAfter_d,
      endsCount_natural, beginsFaces_natural, if_pos rfl, if_pos rfl, hnumeral]
    rfl

/-- Tokens whose dice terms have both their numbers are left alone. -/
theorem expandAfter_areWritten {ts : List (Token Term)} {t : Text} (h : Token.AreWritten ts t)
    (hts : ∀ term ∈ Token.diceOf ts, ∃ d : Dice, term = d.asWritten) (before : Option Char) :
    defaults.expandAfter before t = t := by
  induction h generalizing before with
  | @nil blanks hblanks =>
    have hsame : defaults.expandAfter before (blanks ++ []) = blanks ++ [] :=
      defaults.expandAfter_append_eq_self (Text.d_not_mem_blanks hblanks) (fun _ => rfl) before
    rwa [List.append_nil] at hsame
  | @cons token ts blanks piece rest hblanks hpiece hrest ih =>
    refine defaults.expandAfter_append_eq_self (Text.d_not_mem_blanks hblanks) ?_ before
    cases hpiece with
    | number hn => exact defaults.expandAfter_append_eq_self (Notation.d_not_mem_natural _) (ih hts)
    | dice hterm =>
      obtain ⟨d, rfl⟩ := hts _ List.mem_cons_self
      exact defaults.expandAfter_asWritten hterm
        (ih fun term hterm => hts term (List.mem_cons_of_mem _ hterm))
    | operator op => exact defaults.expandAfter_append_eq_self (by cases op <;> decide) (ih hts)
    | opening => exact defaults.expandAfter_append_eq_self (by decide) (ih hts)
    | closing => exact defaults.expandAfter_append_eq_self (by decide) (ih hts)

end DiceDefaults

/-- An expression in which every dice term has both its numbers can be rolled as it is written,
whatever the defaults are. -/
theorem Notation.isRollable_asWritten {t : Text} {e : Arith Dice}
    (h : IsExpression t (e.map Dice.asWritten)) (defaults : DiceDefaults) :
    IsRollable (Text.lower (defaults.expand t)) e := by
  have hexpression := h
  obtain ⟨ts, hwritten, hparses⟩ := h
  have hdice : ∀ term ∈ Token.diceOf ts, ∃ d : Dice, term = d.asWritten := by
    rw [← hparses.leaves_eq, Arith.leaves_map]
    intro term hterm
    obtain ⟨d, -, rfl⟩ := List.mem_map.mp hterm
    exact ⟨d, rfl⟩
  rw [DiceDefaults.expand, defaults.expandAfter_areWritten hwritten hdice, hwritten.lower_eq]
  exact ⟨_, hexpression, Arith.mapM?_dice?_map_asWritten e⟩

/-- There is a request for every die that is asked for. -/
theorem Arith.length_requests (e : Arith Dice) : e.requests.length = e.diceAsked := by
  rw [requests, List.length_flatMap, diceAsked]
  congr 1
  exact List.map_congr_left fun d _ => List.length_replicate

namespace Dice

variable (answer : Nat → Request → Int) (position : Nat) (d : Dice)

/-- The dice of a term that a source rolled, one for each answer. -/
theorem faces_rolledAt : (d.rolledAt answer position).faces =
    (List.range d.count).map fun i =>
      .fresh ((Request.forDie d.sides).face (answer (position + i) (.forDie d.sides))) := by
  apply List.ext_getElem
  · simp [rolledAt, requests]
  · intro i hi hi'
    simp [rolledAt, requests]

/-- The answers that a source gives for a term, each moved into the range of the request, add up to
its total. -/
theorem total_rolledAt : ((d.rolledAt answer position).total : Int) =
    ((List.range d.count).map fun i =>
      (Request.forDie d.sides).clamp (answer (position + i) (.forDie d.sides))).sum := by
  have hkept : (d.rolledAt answer position).faces.filter (!·.dropped) =
      (d.rolledAt answer position).faces := by
    rw [faces_rolledAt, List.filter_eq_self]
    intro die hdie
    obtain ⟨i, -, rfl⟩ := List.mem_map.mp hdie
    rfl
  have hface : ∀ i, (((Request.forDie d.sides).face
      (answer (position + i) (.forDie d.sides)) : Nat) : Int) =
        (Request.forDie d.sides).clamp (answer (position + i) (.forDie d.sides)) := by
    intro i
    rw [Request.face, Int.toNat_of_nonneg]
    simp only [Request.clamp, Request.forDie]
    omega
  rw [RolledDice.total, hkept, ← List.sum_eq_foldl_nat, faces_rolledAt, Nat.cast_list_sum,
    List.map_map, List.map_map]
  congr 1
  exact List.map_congr_left fun i _ => hface i

/-- The total of a term lies between the number of its dice and the sum of their sides, whatever the
source answers. -/
theorem total_rolledAt_bounds (hsides : 1 ≤ d.sides) :
    d.count ≤ (d.rolledAt answer position).total ∧
      (d.rolledAt answer position).total ≤ d.count * d.sides := by
  have hrange : ∀ v ∈ (List.range d.count).map fun i =>
      (Request.forDie d.sides).clamp (answer (position + i) (.forDie d.sides)),
      (1 : Int) ≤ v ∧ v ≤ d.sides := by
    intro v hv
    obtain ⟨i, -, rfl⟩ := List.mem_map.mp hv
    simp only [Request.clamp, Request.forDie]
    omega
  have hlow := List.card_nsmul_le_sum _ (1 : Int) fun v hv => (hrange v hv).1
  have hhigh := List.sum_le_card_nsmul _ (d.sides : Int) fun v hv => (hrange v hv).2
  rw [← total_rolledAt, List.length_map, List.length_range, Int.nsmul_eq_mul] at hlow hhigh
  rw [mul_one] at hlow
  exact ⟨by exact_mod_cast hlow, by exact_mod_cast hhigh⟩

end Dice

end DiceBot
