import DiceBot.Proofs.Dice.Budget
import DiceBot.Proofs.Dice.PlainDice

/-!
# The letter d alone

A letter d that stands alone is a roll of the default dice. Nothing checks these numbers against
what can be rolled until a roll is made: their number counts for the budget like any other, and both
numbers have to fit a byte to be read. So what comes of the roll is decided by the configuration
alone, before any die is asked for.
-/

namespace DiceBot

/-- The letter d alone gets both numbers. -/
theorem DiceDefaults.expand_d (defaults : DiceDefaults) :
    defaults.expand ['d'] =
      Text.natural defaults.count.toNat ++ 'd' :: Text.natural defaults.faces.toNat := by
  rw [expand, expandAfter_d, expandAfter, List.append_nil]
  rfl

/-- Of two numerals around the letter d the budget counts the first. -/
theorem Budget.counts_dice (n faces : Nat) :
    counts (Text.natural n ++ 'd' :: Text.natural faces) = [n].map Text.natural := by
  obtain ⟨search, -, hrest⟩ := exists_countsFrom_term n faces
  have hcounts := hrest []
  rw [List.append_nil] at hcounts
  rw [counts, hcounts]
  cases search <;> rfl

namespace Notation

/-- A text whose first token cannot be read cannot be read at all. -/
theorem read?_eq_none {c : Char} {t : Text} (hc : Text.isBlankChar c = false)
    (h : readToken? (c :: t) = none) : read? (c :: t) = none := by
  have htrim : Text.trimStart (c :: t) = c :: t := by
    rw [Text.trimStart, List.dropWhile_cons, hc, if_neg Bool.false_ne_true]
  have htokens : tokens? (c :: t) = none := by
    rw [tokens?, List.length_cons, readTokens?.eq_def]
    simp only [htrim, h]
  rw [read?, readOpen?, htokens, Option.bind_none, Option.bind_none]

/-- Behind a number, the letter d and a numeral are read as dice only if both fit a byte. -/
theorem readAfterNumber?_d_eq_none {n faces : Nat} (h : ¬(n ≤ 255 ∧ faces ≤ 255)) :
    readAfterNumber? n ('d' :: Text.natural faces) = none := by
  have hend : ∀ c ∈ ([] : Text).head?, c.isDigit = false := fun c hc => by cases hc
  have hfaces := readNumber?_natural faces hend
  rw [List.append_nil] at hfaces
  simp only [readAfterNumber?]
  split
  · next hn =>
    have hlarge : ¬faces ≤ maxByte := fun hfaces => h ⟨hn, hfaces⟩
    simp only [readTerm?, readOptionalByte?, hfaces, if_neg hlarge, Option.map_none]
  · rfl

/-- Two numerals around the letter d are read as dice if both fit a byte. -/
theorem isExpression_dice {n faces : Nat} (hn : n ≤ 255) (hfaces : faces ≤ 255) :
    IsExpression (Text.natural n ++ 'd' :: Text.natural faces)
      ((Arith.dice ⟨n, faces, []⟩).map Dice.asWritten) := by
  have hwritten : (Dice.asWritten ⟨n, faces, []⟩).IsWritten
      (numeral (some n) ++ 'd' :: (numeral (some faces) ++ [])) :=
    .mk (by rintro m ⟨⟩; exact hn) (by rintro m ⟨⟩; exact hfaces) .nil
  have hblank : Text.isBlank [] = true := rfl
  have htoken := Token.AreWritten.cons hblank (.dice hwritten) (.nil hblank)
  refine ⟨[.dice (Dice.asWritten ⟨n, faces, []⟩)], ?_, .product (.factor (.atom (.dice _)))⟩
  simpa [numeral] using htoken

/-- Two numerals around the letter d cannot be read if either does not fit a byte. -/
theorem read?_dice_eq_none {n faces : Nat} (h : ¬(n ≤ 255 ∧ faces ≤ 255)) :
    read? (Text.natural n ++ 'd' :: Text.natural faces) = none := by
  have htoken : readToken? (Text.natural n ++ 'd' :: Text.natural faces) = none := by
    rw [readToken?_natural n (by rintro c ⟨⟩; decide), readAfterNumber?_d_eq_none h]
  obtain ⟨c, digits, hcons, hc, -⟩ := Text.exists_natural_eq_cons n
  rw [hcons, List.cons_append] at htoken ⊢
  exact read?_eq_none (Text.isBlankChar_of_isDigit hc) htoken

end Notation

/-- A die with sides is asked for as a number from one to that of its sides. -/
theorem Request.forDie_of_pos {sides : Nat} (h : 1 ≤ sides) : forDie sides = ⟨1, sides⟩ := by
  rw [forDie, max_eq_left (by exact_mod_cast h)]

/-- Dice with sides are asked for one by one, and what is rolled for them are the answers, each
moved into the range from one to the number of sides. -/
theorem Dice.rolledAt_of_pos (answer : Nat → Request → Int) (position : Nat) (d : Dice)
    (h : 1 ≤ d.sides) :
    let asked : Request := ⟨1, d.sides⟩
    let face (i : Nat) : Int := asked.clamp (answer (position + i) asked)
    d.requests = List.replicate d.count asked ∧
      d.rolledAt answer position = ⟨d, (List.range d.count).map fun i => .fresh (face i).toNat⟩ ∧
      ((d.rolledAt answer position).total : Int) = ((List.range d.count).map face).sum := by
  simp only [← Request.forDie_of_pos h]
  exact ⟨rfl, congrArg (RolledDice.mk d) (faces_rolledAt answer position d),
    total_rolledAt answer position d⟩

/-- What was rolled for a single term is that term with its faces. -/
theorem RolledArith.IsRollOf.eq_dice {r : RolledArith} {d : Dice} {faces : List Die}
    (h : r.IsRollOf (.dice d) faces) : r = .dice ⟨d, faces⟩ := by
  obtain ⟨hdice, hfaces, -⟩ := h
  cases r with
  | dice rolled =>
    rw [Arith.map, Arith.dice.injEq] at hdice
    rw [Arith.leaves, List.flatMap_singleton] at hfaces
    rw [← hdice, ← hfaces]
  | number n => cases hdice
  | negate e => cases hdice
  | binary op l r => cases hdice

section

variable {library : DiceLibrary} (laws : library.Lawful) {config : EvaluatorConfig}

namespace DiceBox

/-- The default dice are allowed if there are no more than the limit. -/
theorem allows_expand_d :
    Budget.allows config.maxRollCount (config.defaults.expand ['d']) = true ↔
      config.defaults.count.toNat ≤ config.maxRollCount.toNat := by
  rw [config.defaults.expand_d, Budget.allows_iff (Budget.counts_dice _ _), List.sum_singleton]

/-- The letter d is filled in with text in lower case. -/
theorem lower_expand_d (defaults : DiceDefaults) :
    Text.lower (defaults.expand ['d']) = defaults.expand ['d'] :=
  Budget.lower_expand_lower defaults ['d']

/-- More default dice than allowed are turned down by the budget. -/
theorem evaluate_d_of_tooMany (box : DiceBox) (log : List Request)
    (h : config.maxRollCount.toNat < config.defaults.count.toNat) :
    box.evaluate config ['d'] log = (.error (.tooManyDice config.maxRollCount), log) := by
  have hallows : ¬Budget.allows config.maxRollCount (config.defaults.expand ['d']) = true := by
    rw [allows_expand_d]
    exact Nat.not_le_of_lt h
  simp only [evaluate, if_neg hallows]

include laws

/-- Default dice that are allowed but do not fit a dice term are turned down by the reader. -/
theorem evaluate_d_of_unreadable (roller : Roller) (rounds : Nat) (log : List Request)
    (hcount : config.defaults.count.toNat ≤ config.maxRollCount.toNat)
    (h : ¬(config.defaults.count.toNat ≤ 255 ∧ config.defaults.faces.toNat ≤ 255)) :
    DiceBox.evaluate ⟨library, roller, rounds⟩ config ['d'] log =
      (.error (.unreadable ['d'] (library.explain (config.defaults.expand ['d']))), log) := by
  have hread : library.read? (config.defaults.expand ['d']) = none := by
    rw [laws.read?_eq, config.defaults.expand_d]
    exact Notation.read?_dice_eq_none h
  simp only [evaluate, if_pos (allows_expand_d.mpr hcount), lower_expand_d, hread]

/-- Default dice that are allowed and fit a dice term are rolled. -/
theorem evaluate_d_of_fits (roller : Roller) (rounds : Nat) (log : List Request)
    (hallowed : config.defaults.count.toNat ≤ config.maxRollCount.toNat)
    (hcount : config.defaults.count.toNat ≤ 255) (hfaces : config.defaults.faces.toNat ≤ 255) :
    DiceBox.evaluate ⟨library, roller, rounds⟩ config ['d'] log =
      DiceBox.evaluateArith ⟨library, roller, rounds⟩
        (.dice ⟨config.defaults.count.toNat, config.defaults.faces.toNat, []⟩) log := by
  have hrollable := Notation.isRollable_asWritten (Notation.isExpression_dice hcount hfaces)
    config.defaults
  rw [← config.defaults.expand_d, config.defaults.expand_expand] at hrollable
  have hread := laws.read?_eq_some_iff.mpr hrollable
  simp only [evaluate, if_pos (allows_expand_d.mpr hallowed), hread]

/-- Dice whose numbers fit a byte are asked for, each once, and the answers decide on the
outcome. -/
theorem evaluateArith_dice (answer : Nat → Request → Int) (rounds : Nat) (log : List Request)
    {d : Dice} (hplain : d.modifiers = []) (hcount : d.count ≤ 255) (hsides : d.sides ≤ 255)
    (hpos : 1 ≤ d.sides) :
    DiceBox.evaluateArith ⟨library, .ofAnswers answer, rounds⟩ (.dice d) log =
      (.ok ⟨Int64.ofInt (d.rolledAt answer log.length).total,
          library.describe (.dice (d.rolledAt answer log.length))⟩, log ++ d.requests) := by
  have he : (Arith.dice d).IsPlain := by
    intro d' hd'
    rw [List.mem_singleton.mp hd', hplain]
  have hrequests : (Arith.dice d).requests = d.requests := List.flatMap_singleton _ _
  obtain ⟨r, hroll, hr, -⟩ := laws.roll_plain answer rounds log he
  rw [hrequests] at hroll hr
  have hrolled : r = .dice (d.rolledAt answer log.length) := hr.eq_dice
  have hbound : d.count * d.sides ≤ maxDiceTotal :=
    Nat.le_trans (Nat.mul_le_mul hcount hsides) (by decide)
  have htotal := laws.total_dice
    (Nat.le_trans (Dice.total_rolledAt_bounds answer log.length d hpos).2 hbound)
  simp only [evaluateArith, hroll, hrolled, htotal]

end DiceBox

end

/-- A value that is the total of dice whose numbers fit a byte is not cut off. -/
theorem toInt_ofInt_total (answer : Nat → Request → Int) (position : Nat) {d : Dice}
    (hcount : d.count ≤ 255) (hsides : d.sides ≤ 255) (hpos : 1 ≤ d.sides) :
    (Int64.ofInt (d.rolledAt answer position).total).toInt =
      (d.rolledAt answer position).total := by
  have hhigh := (Dice.total_rolledAt_bounds answer position d hpos).2
  have hmax : d.count * d.sides ≤ 255 * 255 := Nat.mul_le_mul hcount hsides
  exact Int64.toInt_ofInt_of_le (by omega) (by omega)

end DiceBot
