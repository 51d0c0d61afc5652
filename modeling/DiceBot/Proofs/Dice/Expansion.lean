import DiceBot.Proofs.Dice.Defaults
import DiceBot.Proofs.Dice.Lawful
import DiceBot.Proofs.Text.LowerCase

/-!
# Filling gaps preserves meaning

Filling in the defaults looks only at the characters next to a letter d, but that is enough: an
expression stays an expression token by token, and its tree stays the same but for the numbers that
its dice terms miss.
-/

namespace DiceBot

/-- A dice term with the numbers that it misses written out. -/
def Term.filled (count faces : Nat) (term : Term) : Term :=
  ⟨some (term.count.getD count), some (term.faces.getD faces), term.modifiers⟩

/-- With its numbers written out a term stands for the dice that it stood for by default. -/
theorem Arith.mapM?_dice?_map_filled (count faces : Nat) (e : Arith Term) :
    mapM? Term.dice? (e.map (Term.filled count faces)) = some (e.map (Term.fill count faces)) := by
  induction e with
  | number n => rfl
  | dice term => rfl
  | negate e ih => simp [map, mapM?, ih]
  | binary op l r ihl ihr => simp [map, mapM?, ihl, ihr]

/-- What modifiers are made of is small. -/
theorem Modifier.isSmall_of_isMark {c : Char} (hc : IsMark c) : Text.IsSmall c := by
  have hmarks : Notation.modifierMarks.all
      (fun d => d != 'Σ' && d != 'İ' && Text.lowerChar d == d) = true := by decide
  rcases hc with hdigit | hmark
  · exact Text.isSmall_of_isDigit hdigit
  · simpa [Text.IsSmall, and_assoc] using List.all_eq_true.mp hmarks c hmark

/-- A token is written in lower case. -/
theorem Token.IsWritten.isSmall {token : Token Term} {t : Text} (h : token.IsWritten t) :
    ∀ c ∈ t, Text.IsSmall c := by
  intro c hc
  cases h with
  | number hn => exact Text.isSmall_of_isDigit (Text.isDigit_of_mem_natural hc)
  | dice hterm =>
    cases hterm with
    | mk hcount hfaces hmodifiers =>
      simp only [List.mem_append, List.mem_cons] at hc
      rcases hc with hcount | rfl | hfaces | hmodifier
      · exact Text.isSmall_of_isDigit (Notation.isDigit_of_mem_numeral hcount)
      · exact ⟨by decide, by decide, by decide⟩
      · exact Text.isSmall_of_isDigit (Notation.isDigit_of_mem_numeral hfaces)
      · exact Modifier.isSmall_of_isMark (hmodifiers.isMark c hmodifier)
  | operator op =>
    obtain rfl := List.mem_singleton.mp hc
    cases op <;> exact ⟨by decide, by decide, by decide⟩
  | opening =>
    obtain rfl := List.mem_singleton.mp hc
    exact ⟨by decide, by decide, by decide⟩
  | closing =>
    obtain rfl := List.mem_singleton.mp hc
    exact ⟨by decide, by decide, by decide⟩

/-- Tokens are written in lower case. -/
theorem Token.AreWritten.lower_eq {ts : List (Token Term)} {t : Text} (h : AreWritten ts t) :
    Text.lower t = t := by
  apply Text.lower_of_isSmall
  induction h with
  | nil hblanks =>
    exact fun c hc => Text.isSmall_of_isBlankChar (List.all_eq_true.mp hblanks c hc)
  | cons hblanks hpiece hrest ih =>
    intro c hc
    simp only [List.mem_append] at hc
    rcases hc with hblank | hpiece' | hrest'
    · exact Text.isSmall_of_isBlankChar (List.all_eq_true.mp hblanks c hblank)
    · exact hpiece.isSmall c hpiece'
    · exact ih c hrest'

namespace DiceDefaults

variable (defaults : DiceDefaults)

/-- A dice term with the defaults filled in. -/
def fillTerm : Term → Term := Term.filled defaults.count.toNat defaults.faces.toNat

/-- A written dice term becomes a written dice term, where an operand may stand and a character
follows that may stand next to any token. -/
theorem isWritten_expandAfter {term : Term} {piece rest : Text} {before : Option Char}
    (hcount : defaults.count.toNat ≤ Notation.maxByte)
    (hfaces : defaults.faces.toNat ≤ Notation.maxByte) (h : term.IsWritten piece)
    (hbefore : endsCount before = false)
    (hrest : ∀ c ∈ rest.head?, Notation.isBreak c = true ∧ c ≠ '(') :
    ∃ piece' after, (defaults.fillTerm term).IsWritten piece' ∧
      defaults.expandAfter before (piece ++ rest) = piece' ++ defaults.expandAfter after rest := by
  obtain ⟨modifiers, after, hmodifiers, hexpand⟩ :=
    defaults.expandAfter_isWritten h hbefore fun c hc =>
      ⟨(Notation.isBreak_cases (hrest c hc).1).2.1, (hrest c hc).2⟩
  have hfits : ∀ {n : Option Nat} {m : Nat}, m ≤ Notation.maxByte →
      (∀ k ∈ n, k ≤ Notation.maxByte) → ∀ k ∈ some (n.getD m), k ≤ Notation.maxByte := by
    rintro (- | k) m hm hn - ⟨⟩
    · exact hm
    · exact hn k rfl
  cases h with
  | @mk count faces ms t hcounts hsides hms =>
    refine ⟨_, after, .mk (hfits hcount hcounts) (hfits hfaces hsides) hmodifiers, ?_⟩
    rw [hexpand]
    simp [Notation.numeral]

/-- The tokens of an expression are the same after its gaps are filled, but for the numbers that
dice terms miss. The induction is on the tokens; where an operand may stand, no number of dice has
just ended. -/
theorem areWritten_expandAfter (hcount : defaults.count.toNat ≤ Notation.maxByte)
    (hfaces : defaults.faces.toNat ≤ Notation.maxByte) {ts : List (Token Term)} {t : Text}
    (h : Token.AreWritten ts t) {operand : Bool} (hts : Alternating operand ts)
    {before : Option Char} (hbefore : operand = true → endsCount before = false) :
    Token.AreWritten (ts.map (Token.map defaults.fillTerm)) (defaults.expandAfter before t) := by
  induction h generalizing operand before with
  | @nil blanks hblanks =>
    have hsame := defaults.expandAfter_append (Text.d_not_mem_blanks hblanks) before []
    rw [List.append_nil, expandAfter, List.append_nil] at hsame
    rw [hsame]
    exact .nil hblanks
  | @cons token ts blanks piece rest hblanks hpiece hrest ih =>
    rw [defaults.expandAfter_append (Text.d_not_mem_blanks hblanks)]
    have hblank : operand = true → endsCount (blanks.getLast?.or before) = false :=
      fun hoperand => endsCount_blanks hblanks (hbefore hoperand)
    cases Token.stands hts hpiece with
    | @number n hn halternating =>
      rw [defaults.expandAfter_append (Notation.d_not_mem_natural n)]
      exact .cons hblanks (.number hn) (ih halternating (by simp))
    | dice hterm halternating =>
      obtain ⟨piece', after, hterm', hexpand⟩ := defaults.isWritten_expandAfter hcount hfaces
        hterm (hblank rfl) (hrest.isBreak halternating)
      rw [hexpand]
      exact .cons hblanks (.dice hterm') (ih halternating (by simp))
    | @mark _ operand' _ c hbreak hclosing hmap hdice halternating =>
      have hafter : operand' = true → endsCount (some c) = false :=
        fun hdue => endsCount_of_isBreak hbreak (hclosing hdue)
      rw [List.singleton_append, expandAfter, if_neg (Notation.isBreak_cases hbreak).1,
        List.map_cons, hmap]
      exact .cons hblanks hpiece (ih halternating hafter)

/-- A text that is an expression, in the one way in which it is one, becomes a text that is an
expression in one way: the tree is the same, but every missing number of dice and all missing faces
are the defaults. Token by token the text is the same but for these numbers. In it every dice term
has its faces, so it is read, in lower case as it is, as the dice that the defaults make of the
tree. -/
theorem expand_preserves_meaning {library : DiceLibrary} (laws : library.Lawful)
    (hcount : defaults.count.toNat ≤ 255) (hfaces : defaults.faces.toNat ≤ 255) {t : Text}
    {e : Arith Term} (h : Notation.IsExpression t e) :
    (∀ e', Notation.IsExpression t e' → e' = e) ∧
      Notation.IsExpression (defaults.expand t) (e.map defaults.fillTerm) ∧
      (∀ e', Notation.IsExpression (defaults.expand t) e' → e' = e.map defaults.fillTerm) ∧
      (∃ ts, Notation.tokens? t = some ts ∧
        Notation.tokens? (defaults.expand t) = some (ts.map (Token.map defaults.fillTerm))) ∧
      Text.lower (defaults.expand t) = defaults.expand t ∧
      library.read? (defaults.expand t) =
        some (e.map (Term.fill defaults.count.toNat defaults.faces.toNat)) := by
  obtain ⟨ts, hwritten, hparses⟩ := h
  have hfilled : Token.AreWritten (ts.map (Token.map defaults.fillTerm)) (defaults.expand t) :=
    defaults.areWritten_expandAfter hcount hfaces hwritten hparses.alternating fun _ => rfl
  have hparses' := hparses.map defaults.fillTerm
  have hexpanded : Notation.IsExpression (defaults.expand t) (e.map defaults.fillTerm) :=
    ⟨_, hfilled, hparses'⟩
  refine ⟨?_, hexpanded, ?_, ⟨ts, ?_, ?_⟩, hfilled.lower_eq, ?_⟩
  · exact fun e' he' => he'.unique ⟨ts, hwritten, hparses⟩
  · exact fun e' he' => he'.unique hexpanded
  · exact Notation.tokens?_areWritten hwritten hparses.alternating
  · exact Notation.tokens?_areWritten hfilled hparses'.alternating
  · exact laws.read?_eq_some_iff.mpr ⟨_, hexpanded, Arith.mapM?_dice?_map_filled _ _ e⟩

/-- Two terms miss their faces, one of them its number of dice too. -/
theorem expand_preserves_meaning_three_terms :
    let defaults : DiceDefaults := ⟨2, 20⟩
    let t := "dkh - 3d*(-4d6xo>=5 \\ 2)".toList
    let u := "2d20kh - 3d20*(-4d6xo>=5 \\ 2)".toList
    let library := Notation.library []
    library.Lawful ∧ defaults.count.toNat ≤ 255 ∧ defaults.faces.toNat ≤ 255 ∧
      defaults.expand t = u ∧
      ∃ e : Arith Term, Notation.IsExpression t e ∧
        e.leaves.map (fun term => (term.count, term.faces)) =
          [(none, none), (some 3, none), (some 4, some 6)] ∧
        Notation.IsExpression u (e.map defaults.fillTerm) ∧
        library.read? u = some (e.map (Term.fill 2 20)) := by
  intro defaults t u library
  have hu : defaults.expand t = u := by decide +kernel
  have hsome : (Notation.readOpen? t).isSome = true := by decide +kernel
  have hleaves : (Notation.readOpen? t).map
      (fun e => e.leaves.map fun term => (term.count, term.faces)) =
        some [(none, none), (some 3, none), (some 4, some 6)] := by decide +kernel
  obtain ⟨e, he⟩ := Option.isSome_iff_exists.mp hsome
  have h := Notation.readOpen?_eq_some_iff.mp he
  have laws : library.Lawful := Notation.library_lawful []
  have hcount : defaults.count.toNat ≤ 255 := by decide
  have hfaces : defaults.faces.toNat ≤ 255 := by decide
  obtain ⟨-, hexpression, -, -, -, hread⟩ :=
    expand_preserves_meaning defaults laws hcount hfaces h
  rw [he, Option.map_some, Option.some.injEq] at hleaves
  rw [hu] at hexpression hread
  exact ⟨laws, hcount, hfaces, hu, e, h, hleaves, hexpression, hread⟩

end DiceDefaults

end DiceBot
