import DiceBot.Proofs.Dice.Defaults

/-!
# Only gaps are filled

Whatever the text, filling in the defaults puts their numerals next to letters d and does nothing
else to it. Each letter d is dealt with apart from all others: what stands before it and behind it
is filled in as if it stood alone, since another letter d next to it is neither a number of dice nor
faces.
-/

namespace DiceBot

namespace DiceDefaults

variable {defaults : DiceDefaults} {t u : Text}

/-- Whether a text is made of another one by putting the default number of dice before some letters
d, and the default faces after some. -/
inductive Fills (defaults : DiceDefaults) : Text → Text → Prop
  | nil : Fills defaults [] []
  /-- Any other character is kept. -/
  | keep {c : Char} {t u : Text} (hc : c ≠ 'd') (h : Fills defaults t u) :
      Fills defaults (c :: t) (c :: u)
  /-- The letter d is kept between what is put next to it. -/
  | letter {count faces t u : Text}
      (hcount : count = [] ∨ count = Text.natural defaults.count.toNat)
      (hfaces : faces = [] ∨ faces = Text.natural defaults.faces.toNat) (h : Fills defaults t u) :
      Fills defaults ('d' :: t) (count ++ 'd' :: (faces ++ u))

namespace Fills

/-- What is put next to a letter d is digits. -/
theorem isDigit_of_mem {piece : Text} {n : Nat} (h : piece = [] ∨ piece = Text.natural n) :
    ∀ c ∈ piece, c.isDigit = true := by
  intro c hc
  rcases h with rfl | rfl
  · cases hc
  · exact Text.isDigit_of_mem_natural hc

/-- Nothing but digits is put in. -/
theorem mem (h : Fills defaults t u) {c : Char} (hc : c ∈ u) : c ∈ t ∨ c.isDigit = true := by
  induction h with
  | nil => cases hc
  | keep hd h ih =>
    rcases List.mem_cons.mp hc with rfl | hc
    · exact Or.inl List.mem_cons_self
    · exact (ih hc).imp_left (List.mem_cons_of_mem _)
  | letter hcount hfaces h ih =>
    rcases List.mem_append.mp hc with hc | hc
    · exact Or.inr (isDigit_of_mem hcount c hc)
    rcases List.mem_cons.mp hc with rfl | hc
    · exact Or.inl List.mem_cons_self
    rcases List.mem_append.mp hc with hc | hc
    · exact Or.inr (isDigit_of_mem hfaces c hc)
    · exact (ih hc).imp_left (List.mem_cons_of_mem _)

theorem sublist (h : Fills defaults t u) : t.Sublist u := by
  induction h with
  | nil => exact .slnil
  | keep hc h ih => exact ih.cons_cons _
  | letter hcount hfaces h ih =>
    exact ((ih.trans (List.sublist_append_right _ _)).cons_cons 'd').trans
      (List.sublist_append_right _ _)

/-- No letter d is put in. -/
theorem count_d (h : Fills defaults t u) : u.count 'd' = t.count 'd' := by
  have hnumeral {piece : Text} {n : Nat} (h : piece = [] ∨ piece = Text.natural n) :
      piece.count 'd' = 0 :=
    List.count_eq_zero.mpr fun hd => absurd (isDigit_of_mem h 'd' hd) (by decide)
  induction h with
  | nil => rfl
  | keep hc h ih => rw [List.count_cons_of_ne hc, List.count_cons_of_ne hc, ih]
  | letter hcount hfaces h ih =>
    rw [List.count_append, List.count_cons_self, List.count_append, List.count_cons_self, ih,
      hnumeral hcount, hnumeral hfaces, Nat.zero_add, Nat.zero_add]

end Fills

variable (defaults)

theorem fills_expandAfter (before : Option Char) (t : Text) :
    Fills defaults t (defaults.expandAfter before t) := by
  have hpiece : ∀ (filled : Bool) (numeral : Text),
      (if filled then [] else numeral) = [] ∨ (if filled then [] else numeral) = numeral := by
    intro filled numeral
    cases filled
    · exact Or.inr rfl
    · exact Or.inl rfl
  induction t generalizing before with
  | nil => exact .nil
  | cons c t ih =>
    by_cases hc : c = 'd'
    · subst hc
      rw [expandAfter_d]
      exact .letter (hpiece _ _) (hpiece _ _) (ih _)
    · rw [expandAfter, if_neg hc]
      exact .keep hc (ih _)

/-- Only whether a number of dice has ended matters of what is before a text. -/
theorem expandAfter_congr {before before' : Option Char} (h : endsCount before = endsCount before')
    (t : Text) : defaults.expandAfter before t = defaults.expandAfter before' t := by
  cases t with
  | nil => rfl
  | cons c t => rw [expandAfter, expandAfter, h]

/-- A letter d is filled in apart from what is before it and behind it. -/
theorem expandAfter_append_d (before : Option Char) (lead rest : Text) :
    defaults.expandAfter before (lead ++ 'd' :: rest) =
      defaults.expandAfter before lead ++
        ((if endsCount (lead.getLast?.or before) then [] else Text.natural defaults.count.toNat) ++
          'd' :: ((if beginsFaces rest.head? then [] else Text.natural defaults.faces.toNat) ++
            defaults.expandAfter none rest)) := by
  induction lead generalizing before with
  | nil =>
    have hnone := defaults.expandAfter_congr (show endsCount (some 'd') = endsCount none from rfl)
    rw [List.nil_append, expandAfter_d, hnone]
    rfl
  | cons c lead ih =>
    rw [getLast?_cons_or, List.cons_append]
    by_cases hc : c = 'd'
    · subst hc
      -- A letter d that follows is no faces, just as the end of the text is none.
      have hhead : beginsFaces (lead ++ 'd' :: rest).head? = beginsFaces lead.head? := by
        cases lead <;> rfl
      rw [expandAfter_d, expandAfter_d, ih, hhead]
      simp only [List.append_assoc, List.cons_append]
    · rw [expandAfter, if_neg hc, expandAfter, if_neg hc, ih, List.cons_append]

/-- For every text and all defaults: the text with its gaps filled in is the text with the default
number of dice put before some of its letters d and the default faces put after some. These are,
whatever stands before and behind a letter d, the letters d without a digit or closing parenthesis
directly before them and those without a digit or opening parenthesis directly after them. So the
text is a subsequence of what is made of it, with as many letters d; what is made of it has no gaps;
it is left alone exactly if it has none; and filling in any other defaults afterwards changes
nothing. -/
theorem expand_fills_gaps (defaults : DiceDefaults) (t : Text) :
    Fills defaults t (defaults.expand t) ∧
      (∀ lead rest, defaults.expand (lead ++ 'd' :: rest) =
        defaults.expand lead ++
          ((if endsCount lead.getLast? then [] else Text.natural defaults.count.toNat) ++
            'd' :: ((if beginsFaces rest.head? then [] else Text.natural defaults.faces.toNat) ++
              defaults.expand rest))) ∧
      t.Sublist (defaults.expand t) ∧ (defaults.expand t).count 'd' = t.count 'd' ∧
      IsComplete (defaults.expand t) ∧ (defaults.expand t = t ↔ IsComplete t) ∧
      ∀ other : DiceDefaults, other.expand (defaults.expand t) = defaults.expand t := by
  have hfills : Fills defaults t (defaults.expand t) := defaults.fills_expandAfter none t
  refine ⟨hfills, ?_, hfills.sublist, hfills.count_d, defaults.isComplete_expand t,
    defaults.expand_eq_self_iff, fun other => defaults.expand_expand other t⟩
  intro lead rest
  rw [expand, expandAfter_append_d, Option.or_none]
  rfl

/-- Letters d side by side, one of them with a parenthesis for its faces. -/
example : expand ⟨2, 20⟩ "dd(d)d6d".toList = "2d202d(2d20)d6d20".toList := by decide

end DiceDefaults

end DiceBot
