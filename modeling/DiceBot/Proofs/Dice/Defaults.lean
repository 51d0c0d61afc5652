import DiceBot.Dice.Defaults
import DiceBot.Proofs.Dice.Grammar

/-!
# Filled gaps

Filling in the defaults touches nothing but the gaps around letters d, and leaves no gap. A text
without gaps is left alone, so filling in any other defaults afterwards changes nothing.
-/

namespace DiceBot

namespace DiceDefaults

variable (defaults : DiceDefaults)

/-- The last character of a text with one character more in front. -/
theorem getLast?_cons_or (c : Char) (t : Text) (before : Option Char) :
    (c :: t).getLast?.or before = t.getLast?.or (some c) := by
  rw [List.getLast?_cons]
  cases t.getLast? <;> rfl

/-- A piece without the letter d has no gaps. -/
theorem expandAfter_append {piece : Text} (hpiece : 'd' ∉ piece) (before : Option Char)
    (rest : Text) :
    defaults.expandAfter before (piece ++ rest) =
      piece ++ defaults.expandAfter (piece.getLast?.or before) rest := by
  induction piece generalizing before with
  | nil => rfl
  | cons c piece ih =>
    rw [List.mem_cons, not_or] at hpiece
    obtain ⟨hc, hpiece⟩ := hpiece
    rw [List.cons_append, expandAfter, if_neg (Ne.symm hc), ih hpiece, List.cons_append,
      getLast?_cons_or]

/-- A character that may stand next to any token ends no number of dice, but for a closing
parenthesis. -/
theorem endsCount_of_isBreak {c : Char} (hbreak : Notation.isBreak c = true) (hc : c ≠ ')') :
    endsCount (some c) = false := by
  simp [endsCount, (Notation.isBreak_cases hbreak).2.1, hc]

/-- Blanks end no number of dice. -/
theorem endsCount_blanks {blanks : Text} (hblanks : Text.isBlank blanks = true)
    {before : Option Char} (hbefore : endsCount before = false) :
    endsCount (blanks.getLast?.or before) = false := by
  cases hlast : blanks.getLast? with
  | none => exact hbefore
  | some c =>
    have hblank := List.all_eq_true.mp hblanks c (List.mem_of_getLast? hlast)
    apply endsCount_of_isBreak (Notation.isBreak_of_isBlankChar hblank)
    rintro rfl
    exact absurd hblank (by decide)

/-- Before the letter d there is a numeral, so nothing is missing there. -/
theorem endsCount_natural (n : Nat) (before : Option Char) :
    endsCount ((Text.natural n).getLast?.or before) = true := by
  have hlast := List.getLast?_eq_some_getLast (Text.natural_ne_nil n)
  have hdigit := Text.isDigit_of_mem_natural (List.getLast_mem (Text.natural_ne_nil n))
  rw [hlast, Option.some_or, endsCount, hdigit, Bool.true_or]

/-- After the letter d there is a numeral, so nothing is missing there. -/
theorem beginsFaces_natural (n : Nat) (rest : Text) :
    beginsFaces (Text.natural n ++ rest).head? = true := by
  obtain ⟨c, digits, hn, hc, -⟩ := Text.exists_natural_eq_cons n
  simp only [hn, List.cons_append, List.head?_cons, beginsFaces, hc, Bool.true_or]

/-- The letter d with its gaps filled in. -/
theorem expandAfter_d (before : Option Char) (rest : Text) :
    defaults.expandAfter before ('d' :: rest) =
      (if endsCount before then [] else Text.natural defaults.count.toNat) ++ 'd' ::
        ((if beginsFaces rest.head? then [] else Text.natural defaults.faces.toNat) ++
          defaults.expandAfter (some 'd') rest) := by
  rw [expandAfter, if_pos rfl, List.append_assoc, List.cons_append]

/-- The faces after a letter d stay where they are. -/
theorem head?_expandAfter {rest : Text} (h : beginsFaces rest.head? = true) (before : Option Char) :
    (defaults.expandAfter before rest).head? = rest.head? := by
  cases rest with
  | nil => rfl
  | cons c rest =>
    have hc : c ≠ 'd' := by
      rintro rfl
      exact Bool.false_ne_true h
    rw [expandAfter, if_neg hc, List.head?_cons, List.head?_cons]

/-- Whether the characters next to a letter d stand for a number of dice and for faces: a digit or a
closing parenthesis before it, a digit or an opening parenthesis after it. -/
def IsEnclosed (before after : Option Char) : Prop :=
  (∃ c ∈ before, c.isDigit = true ∨ c = ')') ∧ ∃ c ∈ after, c.isDigit = true ∨ c = '('

theorem isEnclosed_iff {before after : Option Char} :
    IsEnclosed before after ↔ endsCount before = true ∧ beginsFaces after = true := by
  cases before <;> cases after <;> simp [IsEnclosed, endsCount, beginsFaces]

/-- Whether each letter d of a text has a number of dice directly before it and faces directly after
it. -/
def IsComplete (t : Text) : Prop :=
  ∀ lead rest, t = lead ++ 'd' :: rest → IsEnclosed lead.getLast? rest.head?

/-- The same of a text that follows the character `before`. -/
def IsCompleteAfter (before : Option Char) (t : Text) : Prop :=
  ∀ lead rest, t = lead ++ 'd' :: rest → IsEnclosed (lead.getLast?.or before) rest.head?

theorem isCompleteAfter_none {t : Text} : IsCompleteAfter none t ↔ IsComplete t := by
  simp only [IsCompleteAfter, IsComplete, Option.or_none]

theorem isCompleteAfter_nil (before : Option Char) : IsCompleteAfter before [] := by
  intro lead rest h
  simp at h

theorem isCompleteAfter_cons {before : Option Char} {c : Char} {t : Text} :
    IsCompleteAfter before (c :: t) ↔
      (c = 'd' → IsEnclosed before t.head?) ∧ IsCompleteAfter (some c) t := by
  constructor
  · intro h
    refine ⟨?_, ?_⟩
    · rintro rfl
      exact h [] t rfl
    · rintro lead rest rfl
      have hsplit := h (c :: lead) rest rfl
      rwa [getLast?_cons_or] at hsplit
  · rintro ⟨hc, ht⟩ lead rest h
    cases lead with
    | nil =>
      obtain ⟨rfl, rfl⟩ := List.cons.inj h
      exact hc rfl
    | cons b lead =>
      obtain ⟨rfl, rfl⟩ := List.cons.inj h
      rw [getLast?_cons_or]
      exact ht lead rest rfl

/-- A piece without the letter d only matters for what is before the rest. -/
theorem isCompleteAfter_append {piece : Text} (hpiece : 'd' ∉ piece) {before : Option Char}
    {rest : Text} :
    IsCompleteAfter before (piece ++ rest) ↔
      IsCompleteAfter (piece.getLast?.or before) rest := by
  induction piece generalizing before with
  | nil => rfl
  | cons c piece ih =>
    rw [List.mem_cons, not_or] at hpiece
    obtain ⟨hc, hpiece⟩ := hpiece
    rw [List.cons_append, isCompleteAfter_cons, ih hpiece, getLast?_cons_or]
    exact and_iff_right fun h => absurd h.symm hc

/-- A text without gaps is left alone. -/
theorem expandAfter_of_isCompleteAfter {before : Option Char} {t : Text}
    (h : IsCompleteAfter before t) : defaults.expandAfter before t = t := by
  induction t generalizing before with
  | nil => rfl
  | cons c t ih =>
    obtain ⟨hc, ht⟩ := isCompleteAfter_cons.mp h
    by_cases hd : c = 'd'
    · subst hd
      obtain ⟨hcount, hfaces⟩ := isEnclosed_iff.mp (hc rfl)
      rw [expandAfter_d, if_pos hcount, if_pos hfaces, ih ht]
      rfl
    · rw [expandAfter, if_neg hd, ih ht]

/-- An expanded text has no gaps. The text may follow another character than the one that was
looked at, if a number of dice ends with that one too. -/
theorem isCompleteAfter_expandAfter {before before' : Option Char}
    (hbefore : endsCount before = true → endsCount before' = true) (t : Text) :
    IsCompleteAfter before' (defaults.expandAfter before t) := by
  induction t generalizing before before' with
  | nil => exact isCompleteAfter_nil before'
  | cons c t ih =>
    by_cases hc : c = 'd'
    · subst hc
      -- Whatever stands before the letter d, its faces and all that follows have no gaps.
      have hfaces : ∀ after, endsCount after = true → IsCompleteAfter after ('d' ::
          ((if beginsFaces t.head? then [] else Text.natural defaults.faces.toNat) ++
            defaults.expandAfter (some 'd') t)) := by
        intro after hafter
        rw [isCompleteAfter_cons, isEnclosed_iff]
        by_cases hhead : beginsFaces t.head? = true
        · rw [if_pos hhead, List.nil_append, defaults.head?_expandAfter hhead]
          exact ⟨fun _ => ⟨hafter, hhead⟩, ih id⟩
        · rw [if_neg hhead, isCompleteAfter_append (Notation.d_not_mem_natural _)]
          exact ⟨fun _ => ⟨hafter, beginsFaces_natural _ _⟩, ih fun h => absurd h (by decide)⟩
      rw [expandAfter_d]
      by_cases hcount : endsCount before = true
      · rw [if_pos hcount, List.nil_append]
        exact hfaces before' (hbefore hcount)
      · rw [if_neg hcount, isCompleteAfter_append (Notation.d_not_mem_natural _)]
        exact hfaces _ (endsCount_natural _ _)
    · rw [expandAfter, if_neg hc, isCompleteAfter_cons]
      exact ⟨fun h => absurd h hc, ih id⟩

theorem isComplete_expand (t : Text) : IsComplete (defaults.expand t) :=
  isCompleteAfter_none.mp (defaults.isCompleteAfter_expandAfter id t)

/-- Exactly the texts without gaps are left alone. -/
theorem expand_eq_self_iff {t : Text} : defaults.expand t = t ↔ IsComplete t := by
  constructor
  · intro h
    rw [← h]
    exact defaults.isComplete_expand t
  · intro h
    exact defaults.expandAfter_of_isCompleteAfter (isCompleteAfter_none.mpr h)

/-- Where gaps have been filled in, others find none. -/
theorem expand_expand (other : DiceDefaults) (t : Text) :
    other.expand (defaults.expand t) = defaults.expand t :=
  other.expand_eq_self_iff.mpr (defaults.isComplete_expand t)

/-- A dice term at which an operand may stand gets the numbers that it misses. -/
theorem expandAfter_term {term : Term} {tail : Text} {before : Option Char}
    (hbefore : endsCount before = false)
    (hfaces : term.faces = none → beginsFaces tail.head? = false) :
    ∃ before', defaults.expandAfter before
        (Notation.numeral term.count ++ 'd' :: (Notation.numeral term.faces ++ tail)) =
      Text.natural (term.count.getD defaults.count.toNat) ++ 'd' ::
        (Text.natural (term.faces.getD defaults.faces.toNat) ++
          defaults.expandAfter before' tail) := by
  obtain ⟨count, faces, modifiers⟩ := term
  have hd : ∃ before', ∀ after, defaults.expandAfter after
        ('d' :: (Notation.numeral faces ++ tail)) =
      (if endsCount after then [] else Text.natural defaults.count.toNat) ++ 'd' ::
        (Text.natural (faces.getD defaults.faces.toNat) ++
          defaults.expandAfter before' tail) := by
    cases faces with
    | none =>
      refine ⟨some 'd', ?_⟩
      intro after
      rw [expandAfter_d, Notation.numeral, List.nil_append, hfaces rfl, if_neg Bool.false_ne_true]
      rfl
    | some f =>
      refine ⟨(Text.natural f).getLast?.or (some 'd'), ?_⟩
      intro after
      rw [expandAfter_d, Notation.numeral, beginsFaces_natural, if_pos rfl, List.nil_append,
        expandAfter_append _ (Notation.d_not_mem_natural f)]
      rfl
  obtain ⟨before', hd⟩ := hd
  refine ⟨before', ?_⟩
  cases count with
  | none =>
    rw [Notation.numeral, List.nil_append, hd, hbefore, if_neg Bool.false_ne_true]
    rfl
  | some n =>
    rw [Notation.numeral, expandAfter_append _ (Notation.d_not_mem_natural n), hd,
      endsCount_natural, if_pos rfl, List.nil_append]
    rfl

/-- A written dice term gets the numbers that it misses and keeps its modifiers, where an operand
may stand and neither a digit nor an opening parenthesis follows. -/
theorem expandAfter_isWritten {term : Term} {piece rest : Text} {before : Option Char}
    (h : term.IsWritten piece) (hbefore : endsCount before = false)
    (hrest : ∀ c ∈ rest.head?, c.isDigit = false ∧ c ≠ '(') :
    ∃ modifiers after, Modifier.AreWritten term.modifiers modifiers ∧
      defaults.expandAfter before (piece ++ rest) =
        Text.natural (term.count.getD defaults.count.toNat) ++ 'd' ::
          (Text.natural (term.faces.getD defaults.faces.toNat) ++
            (modifiers ++ defaults.expandAfter after rest)) := by
  cases h with
  | @mk count faces ms t hcount hfaces hmodifiers =>
    have hhead : beginsFaces (t ++ rest).head? = false := by
      cases hc : (t ++ rest).head? with
      | none => rfl
      | some c =>
        have hneither : c.isDigit = false ∧ c ≠ '(' := by
          rcases hmodifiers.head?_append hc with hinitial | hnext
          · obtain ⟨hdigit, hbreak⟩ := Notation.of_mem_modifierInitials hinitial
            refine ⟨hdigit, ?_⟩
            rintro rfl
            exact absurd hbreak (by decide)
          · exact hrest c hnext
        simp [beginsFaces, hneither]
    obtain ⟨after, hterm⟩ :=
      @expandAfter_term defaults ⟨count, faces, ms⟩ (t ++ rest) before hbefore fun _ => hhead
    refine ⟨t, t.getLast?.or after, hmodifiers, ?_⟩
    rw [defaults.expandAfter_append hmodifiers.d_not_mem] at hterm
    simpa using hterm

end DiceDefaults

end DiceBot
