import DiceBot.Proofs.Dice.Reading

/-!
# What is written is read

The readers take as much as they can, so to read a piece back they need to know what stands behind
it. Behind a modifier stands another one, or a character that may stand next to any token; with that
known every reader takes exactly the piece that was written, and an expression is read as its tree.
A text is therefore an expression in at most one way.
-/

namespace DiceBot

namespace Text

/-- The first character of two pieces is one of the first piece, unless that is empty. -/
theorem mem_head?_append {t rest : Text} {c : Char} (hc : c ∈ (t ++ rest).head?) :
    c ∈ t ∨ (t = [] ∧ c ∈ rest.head?) := by
  cases t with
  | nil => exact Or.inr ⟨rfl, hc⟩
  | cons d t =>
    obtain rfl : d = c := by simpa using hc
    exact Or.inl List.mem_cons_self

/-- The numeral of a number begins with a digit, whatever follows it. -/
theorem isDigit_of_mem_head?_natural {n : Nat} {rest : Text} {c : Char}
    (hc : c ∈ (natural n ++ rest).head?) : c.isDigit = true := by
  obtain ⟨first, digits, hn, hfirst, -⟩ := exists_natural_eq_cons n
  obtain rfl : first = c := by simpa [hn] using hc
  exact hfirst

end Text

namespace Notation

/-- A numeral is read if no digit follows. -/
theorem readNumber?_natural (n : Nat) {rest : Text} (hrest : ∀ c ∈ rest.head?, c.isDigit = false) :
    readNumber? (Text.natural n ++ rest) = some (n, rest) := by
  by_cases hn : n = 0
  · subst hn
    rfl
  · obtain ⟨c, digits, hcons, hc, hdigits⟩ := Text.exists_natural_eq_cons n
    have hzero : c ≠ '0' := by
      rintro rfl
      exact Text.head?_natural_ne_zero (Nat.pos_of_ne_zero hn) (by rw [hcons, List.head?_cons])
    obtain ⟨htake, hdrop⟩ := Text.takeWhile_dropWhile_append hdigits hrest
    have hvalue : Nat.ofDigitChars 10 (c :: digits) 0 = n := by
      rw [← hcons]
      exact Nat.ofDigitChars_ten_toDigits
    simp [hcons, readNumber?, hzero, hc, htake, hdrop, hvalue]

/-- No number is read where no digit stands. -/
theorem readNumber?_of_not_digit {t : Text} (ht : ∀ c ∈ t.head?, c.isDigit = false) :
    readNumber? t = none := by
  cases t with
  | nil => rfl
  | cons c t =>
    have hdigit := ht c rfl
    have hzero : c ≠ '0' := by
      rintro rfl
      exact absurd hdigit (by decide)
    simp [readNumber?, hzero, hdigit]

/-- A byte is read from its numeral. -/
theorem readByte?_natural {n : Nat} (hn : n ≤ maxByte) {rest : Text}
    (hrest : ∀ c ∈ rest.head?, c.isDigit = false) :
    readByte? (Text.natural n ++ rest) = some (n, rest) := by
  simp [readByte?, readNumber?_natural n hrest, hn]

/-- So is one that may be missing. -/
theorem readOptionalByte?_numeral {n : Option Nat} (hn : ∀ m ∈ n, m ≤ maxByte) {rest : Text}
    (hrest : ∀ c ∈ rest.head?, c.isDigit = false) :
    readOptionalByte? (numeral n ++ rest) = some (n, rest) := by
  cases n with
  | none => simp [numeral, readOptionalByte?, readNumber?_of_not_digit hrest]
  | some m => simp [numeral, readOptionalByte?, readNumber?_natural m hrest, hn m rfl]

/-- A comparison is read from its sign, where the sign does not go on. -/
theorem readComparison_sign (comparison : Comparison) {t : Text} (ht : ∀ c ∈ t.head?, c ≠ '=') :
    readComparison (comparison.sign ++ t) = (comparison, t) := by
  cases t with
  | nil => cases comparison <;> rfl
  | cons c t =>
    have hc := ht c rfl
    cases comparison <;> simp [readComparison, Comparison.sign, hc]

/-- The characters that the signs of comparisons are made of. -/
def comparisonMarks : List Char := ['<', '>', '=']

/-- Without a sign the comparison is equality. -/
theorem readComparison_unsigned {t : Text} (ht : ∀ c ∈ t.head?, c ∉ comparisonMarks) :
    readComparison t = (.equal, t) := by
  cases t with
  | nil => rfl
  | cons c t =>
    have hc := ht c rfl
    simp only [comparisonMarks, List.mem_cons, not_or] at hc
    simp [readComparison, hc]

/-- No digit is a sign of a comparison. -/
theorem not_mem_comparisonMarks_of_isDigit {c : Char} (hc : c.isDigit = true) :
    c ∉ comparisonMarks := by
  intro hmark
  have hall : comparisonMarks.all (fun d => !d.isDigit) = true := by decide
  have hdigit := List.all_eq_true.mp hall c hmark
  rw [hc] at hdigit
  cases hdigit

/-- A condition is read if no digit follows. -/
theorem readCondition?_isWritten {condition : Condition} {piece rest : Text}
    (h : condition.IsWritten piece) (hrest : ∀ c ∈ rest.head?, c.isDigit = false) :
    readCondition? (piece ++ rest) = some (condition, rest) := by
  have hmarks : ∀ n : Nat, ∀ c ∈ (Text.natural n ++ rest).head?, c ∉ comparisonMarks :=
    fun n c hc => not_mem_comparisonMarks_of_isDigit (Text.isDigit_of_mem_head?_natural hc)
  cases h with
  | @signed comparison bound hbound =>
    have hequal : ∀ c ∈ (Text.natural bound ++ rest).head?, c ≠ '=' := by
      rintro c hc rfl
      exact hmarks bound '=' hc (by decide)
    simp [readCondition?, readComparison_sign comparison hequal, readByte?_natural hbound hrest]
  | @unsigned bound hbound =>
    simp [readCondition?, readComparison_unsigned (hmarks bound), readByte?_natural hbound hrest]

/-- A condition begins with a digit or with the sign of a comparison. -/
theorem head?_condition {condition : Condition} {piece rest : Text}
    (h : condition.IsWritten piece) {c : Char} (hc : c ∈ (piece ++ rest).head?) :
    c.isDigit = true ∨ c ∈ comparisonMarks := by
  cases h with
  | signed comparison hbound =>
    right
    cases comparison <;>
    · simp only [Comparison.sign, List.cons_append, List.head?_cons, Option.mem_some_iff] at hc
      rw [← hc]
      decide
  | unsigned hbound => exact Or.inl (Text.isDigit_of_mem_head?_natural hc)

/-- Whether a character may follow a modifier: it may stand next to any token or begins a
modifier. -/
def IsBoundary (c : Char) : Prop := isBreak c = true ∨ c ∈ modifierInitials

instance (c : Char) : Decidable (IsBoundary c) := inferInstanceAs (Decidable (_ ∨ _))

/-- What may follow a modifier is no digit. -/
theorem IsBoundary.isDigit {c : Char} (hc : IsBoundary c) : c.isDigit = false := by
  rcases hc with hbreak | hinitial
  · exact (isBreak_cases hbreak).2.1
  · exact (of_mem_modifierInitials hinitial).1

theorem IsBoundary.ne {c d : Char} (hc : IsBoundary c) (hd : ¬IsBoundary d) : c ≠ d := by
  rintro rfl
  exact hd hc

/-- Nor is it a sign of a comparison. -/
theorem IsBoundary.not_mem_comparisonMarks {c : Char} (hc : IsBoundary c) :
    c ∉ comparisonMarks := by
  intro hmark
  have hall : comparisonMarks.all (fun d => !decide (IsBoundary d)) = true := by decide
  have hno := List.all_eq_true.mp hall c hmark
  simp [hc] at hno

variable {rest : Text}

/-- A condition that may be missing is read if a boundary follows. -/
theorem readExplode_isWritten (untilNone : Bool) {condition : Option Condition} {piece : Text}
    (h : Condition.IsWrittenOptionally condition piece) (hrest : ∀ c ∈ rest.head?, IsBoundary c) :
    readExplode untilNone (piece ++ rest) = (.explode untilNone condition, rest) := by
  have hdigit : ∀ c ∈ rest.head?, c.isDigit = false := fun c hc => (hrest c hc).isDigit
  cases h with
  | missing =>
    have hcomparison := readComparison_unsigned fun c hc => (hrest c hc).not_mem_comparisonMarks
    simp [readExplode, readCondition?, hcomparison, readByte?, readNumber?_of_not_digit hdigit]
  | present h => simp [readExplode, readCondition?_isWritten h hdigit]

/-- The number of dice to keep is read from its numeral. -/
theorem readKeep?_numeral (keep : Nat → Modifier) {n : Option Nat} (hn : ∀ m ∈ n, m ≤ maxByte)
    (hrest : ∀ c ∈ rest.head?, IsBoundary c) :
    readKeep? keep (numeral n ++ rest) = some (keep (n.getD 1), rest) := by
  simp [readKeep?, readOptionalByte?_numeral hn fun c hc => (hrest c hc).isDigit]

/-- A bound on the faces is read from its numeral. -/
theorem readBound?_natural (modifier : Nat → Modifier) {n : Nat} (hn : n ≤ maxByte)
    (hrest : ∀ c ∈ rest.head?, IsBoundary c) :
    readBound? modifier (Text.natural n ++ rest) = some (modifier n, rest) := by
  simp [readBound?, readByte?_natural hn fun c hc => (hrest c hc).isDigit]

/-- One letter r begins a reroll if no second one follows. -/
theorem readModifier?_r {t : Text} (ht : ∀ c ∈ t.head?, c ≠ 'r') :
    readModifier? ('r' :: t) = readReroll? false t := by
  cases t with
  | nil => rfl
  | cons c t => simp [readModifier?, ht c rfl]

/-- The letter x begins an explosion of all dice if no letter o follows. -/
theorem readModifier?_x {t : Text} (ht : ∀ c ∈ t.head?, c ≠ 'o') :
    readModifier? ('x' :: t) = some (readExplode true t) := by
  cases t with
  | nil => rfl
  | cons c t => simp [readModifier?, ht c rfl]

/-- The letter k stands for keeping the highest dice if neither letter l nor h follows. -/
theorem readModifier?_k {t : Text} (ht : ∀ c ∈ t.head?, c ≠ 'l' ∧ c ≠ 'h') :
    readModifier? ('k' :: t) = readKeep? .keepHighest t := by
  cases t with
  | nil => rfl
  | cons c t => simp [readModifier?, ht c rfl]

/-- A modifier is read if a boundary follows. -/
theorem readModifier?_isWritten {m : Modifier} {piece : Text} (h : m.IsWritten piece)
    (hrest : ∀ c ∈ rest.head?, IsBoundary c) :
    readModifier? (piece ++ rest) = some (m, rest) := by
  have hdigit : ∀ c ∈ rest.head?, c.isDigit = false := fun c hc => (hrest c hc).isDigit
  -- No letter of a modifier begins a condition.
  have hcondition : ∀ (condition : Condition) (t : Text), condition.IsWritten t →
      ∀ c ∈ (t ++ rest).head?, c ≠ 'r' ∧ c ≠ 'o' := by
    intro condition t ht c hc
    have hmarks : 'r' ∉ comparisonMarks ∧ 'o' ∉ comparisonMarks := by decide
    rcases head?_condition ht hc with hd | hmark
    · constructor <;> rintro rfl <;> exact absurd hd (by decide)
    · constructor <;> rintro rfl
      · exact hmarks.1 hmark
      · exact hmarks.2 hmark
  cases h with
  | @reroll untilNone condition t ht =>
    cases untilNone with
    | true => simp [readModifier?, readReroll?, readCondition?_isWritten ht hdigit]
    | false =>
      have hfirst := readModifier?_r fun c hc => (hcondition condition t ht c hc).1
      simp [hfirst, readReroll?, readCondition?_isWritten ht hdigit]
  | @explode untilNone condition t ht =>
    cases untilNone with
    | false => simp [readModifier?, readExplode_isWritten false ht hrest]
    | true =>
      have ho : ∀ c ∈ (t ++ rest).head?, c ≠ 'o' := by
        cases ht with
        | missing => exact fun c hc => (hrest c hc).ne (by decide)
        | present ht => exact fun c hc => (hcondition _ t ht c hc).2
      simp [readModifier?_x ho, readExplode_isWritten true ht hrest]
  | keepLowest hn => simp [readModifier?, readKeep?_numeral _ hn hrest]
  | keepHighest hn => simp [readModifier?, readKeep?_numeral _ hn hrest]
  | @keep n hn =>
    have hletter : ∀ c ∈ (numeral n ++ rest).head?, c ≠ 'l' ∧ c ≠ 'h' := by
      intro c hc
      rcases Text.mem_head?_append hc with hmem | ⟨-, hc⟩
      · have hc := isDigit_of_mem_numeral hmem
        constructor <;> rintro rfl <;> exact absurd hc (by decide)
      · exact ⟨(hrest c hc).ne (by decide), (hrest c hc).ne (by decide)⟩
    simp [readModifier?_k hletter, readKeep?_numeral _ hn hrest]
  | raiseTo hn => simp [readModifier?, readBound?_natural _ hn hrest]
  | lowerTo hn => simp [readModifier?, readBound?_natural _ hn hrest]

/-- No modifier begins where none of its letters stands. -/
theorem readModifier?_eq_none {t : Text} (ht : ∀ c ∈ t.head?, c ∉ modifierInitials) :
    readModifier? t = none := by
  cases hread : readModifier? t with
  | none => rfl
  | some r =>
    obtain ⟨m, rest⟩ := r
    obtain ⟨piece, hpiece, rfl⟩ := readModifier?_eq_some hread
    obtain ⟨c, hc, u, rfl⟩ := hpiece.exists_cons
    exact absurd hc (ht c rfl)

/-- What may stand next to any token begins no modifier. -/
theorem not_mem_modifierInitials_of_isBreak {c : Char} (hc : isBreak c = true) :
    c ∉ modifierInitials := by
  intro hinitial
  exact Bool.false_ne_true ((of_mem_modifierInitials hinitial).2.symm.trans hc)

/-- Modifiers are read to the last if a character follows that may stand next to any token. -/
theorem readModifiers_areWritten {ms : List Modifier} {piece : Text}
    (h : Modifier.AreWritten ms piece) (hrest : ∀ c ∈ rest.head?, isBreak c = true) {bound : Nat}
    (hbound : ms.length ≤ bound) : readModifiers bound (piece ++ rest) = (ms, rest) := by
  induction h generalizing bound with
  | nil =>
    have hnone := readModifier?_eq_none fun c hc =>
      not_mem_modifierInitials_of_isBreak (hrest c hc)
    cases bound with
    | zero => rfl
    | succ bound => simp [readModifiers, hnone]
  | @cons m ms t u hm hms ih =>
    cases bound with
    | zero => cases hbound
    | succ bound =>
      have hnext : ∀ c ∈ (u ++ rest).head?, IsBoundary c := by
        intro c hc
        rcases hms.head?_append hc with hinitial | hc
        · exact Or.inr hinitial
        · exact Or.inl (hrest c hc)
      simp [readModifiers, readModifier?_isWritten hm hnext, ih (Nat.le_of_succ_le_succ hbound)]

/-- Every modifier has at least one character. -/
theorem length_le_of_areWritten {ms : List Modifier} {piece : Text}
    (h : Modifier.AreWritten ms piece) : ms.length ≤ piece.length := by
  induction h with
  | nil => exact Nat.le_refl 0
  | cons hm hms ih =>
    obtain ⟨c, -, t, rfl⟩ := hm.exists_cons
    simp only [List.length_cons, List.length_append]
    omega

/-- A dice term without its number of dice is read if a character follows that may stand next to
any token. -/
theorem readTerm?_isWritten (count : Option Nat) {faces : Option Nat}
    (hfaces : ∀ n ∈ faces, n ≤ maxByte) {ms : List Modifier} {piece : Text}
    (h : Modifier.AreWritten ms piece) (hrest : ∀ c ∈ rest.head?, isBreak c = true) :
    readTerm? count (numeral faces ++ (piece ++ rest)) = some (⟨count, faces, ms⟩, rest) := by
  have hdigit : ∀ c ∈ (piece ++ rest).head?, c.isDigit = false := by
    intro c hc
    have hboundary : IsBoundary c := by
      rcases h.head?_append hc with hinitial | hc
      · exact Or.inr hinitial
      · exact Or.inl (hrest c hc)
    exact hboundary.isDigit
  have hlength : ms.length ≤ (piece ++ rest).length := by
    have := length_le_of_areWritten h
    rw [List.length_append]
    omega
  rw [readTerm?, readOptionalByte?_numeral hfaces hdigit, Option.map_some]
  simp only [readModifiers_areWritten h hrest hlength]

/-- A token that begins with a numeral is read as a number and what follows it. -/
theorem readToken?_natural (n : Nat) (hrest : ∀ c ∈ rest.head?, c.isDigit = false) :
    readToken? (Text.natural n ++ rest) = readAfterNumber? n rest := by
  have hnumber := readNumber?_natural n hrest
  obtain ⟨c, digits, hn, hc, -⟩ := Text.exists_natural_eq_cons n
  have hne : ∀ d, d.isDigit = false → c ≠ d := by
    rintro d hd rfl
    exact Bool.false_ne_true (hd.symm.trans hc)
  have hsign : Operator.ofSign? c = none := by
    cases hop : Operator.ofSign? c with
    | none => rfl
    | some op =>
      refine absurd (sign_of_ofSign? hop).symm (hne op.sign ?_)
      cases op <;> decide
  rw [hn, List.cons_append] at hnumber
  -- The last case of the reader applies because of what the first character is not.
  have hopening := hne '(' (by decide)
  have hclosing := hne ')' (by decide)
  have hd := hne 'd' (by decide)
  simp [hn, readToken?, hsign, hnumber]

/-- An operand is read if a character follows that may stand next to any token. -/
theorem readToken?_number {n : Nat} (hn : n ≤ maxNumber)
    (hrest : ∀ c ∈ rest.head?, isBreak c = true) :
    readToken? (Text.natural n ++ rest) = some (.number n, rest) := by
  rw [readToken?_natural n fun c hc => (isBreak_cases (hrest c hc)).2.1]
  cases rest with
  | nil => simp [readAfterNumber?, hn]
  | cons c rest =>
    have hc := (isBreak_cases (hrest c rfl)).1
    simp [readAfterNumber?, hc, hn]

/-- A dice term is read as it is written. -/
theorem readToken?_dice {term : Term} {piece : Text} (h : term.IsWritten piece)
    (hrest : ∀ c ∈ rest.head?, isBreak c = true) :
    readToken? (piece ++ rest) = some (.dice term, rest) := by
  cases h with
  | @mk count faces ms t hcount hfaces hms =>
    rw [List.append_assoc, List.cons_append, List.append_assoc]
    cases count with
    | none =>
      rw [numeral, List.nil_append]
      simp [readToken?, readTerm?_isWritten none hfaces hms hrest]
    | some n =>
      have hd : ∀ c ∈ ('d' :: (numeral faces ++ (t ++ rest))).head?, c.isDigit = false := by
        rintro c ⟨⟩
        decide
      rw [numeral, readToken?_natural n hd]
      simp [readAfterNumber?, hcount n rfl, readTerm?_isWritten (some n) hfaces hms hrest]

/-- An operator is read from its sign. -/
theorem readToken?_operator (op : Operator) :
    readToken? (op.sign :: rest) = some (.operator op, rest) := by
  cases op <;> rfl

end Notation

namespace Token

/-- No token begins with a blank. -/
theorem IsWritten.exists_cons {token : Token Term} {t : Text} (h : token.IsWritten t) :
    ∃ c u, t = c :: u ∧ Text.isBlankChar c = false := by
  have hnumeral : ∀ n rest, ∃ c u, Text.natural n ++ rest = c :: u ∧
      Text.isBlankChar c = false := by
    intro n rest
    obtain ⟨c, digits, hn, hc, -⟩ := Text.exists_natural_eq_cons n
    rw [hn]
    exact ⟨c, digits ++ rest, rfl, Text.isBlankChar_of_isDigit hc⟩
  cases h with
  | @number n hn => simpa using hnumeral n []
  | dice h =>
    cases h with
    | @mk count faces ms t hcount hfaces h =>
      cases count with
      | none => exact ⟨'d', _, rfl, by decide⟩
      | some n => exact hnumeral n _
  | operator op => exact ⟨op.sign, [], rfl, by cases op <;> decide⟩
  | opening => exact ⟨'(', [], rfl, by decide⟩
  | closing => exact ⟨')', [], rfl, by decide⟩

/-- Every token has at least one character. -/
theorem AreWritten.length_le {ts : List (Token Term)} {t : Text} (h : AreWritten ts t) :
    ts.length ≤ t.length := by
  induction h with
  | nil => exact Nat.zero_le _
  | cons hblanks hpiece hrest ih =>
    obtain ⟨c, u, rfl, -⟩ := hpiece.exists_cons
    simp only [List.length_cons, List.length_append]
    omega

end Token

namespace Notation

/-- The token after leading blanks is read first. -/
theorem readTokens?_cons {token : Token Term} {blanks piece rest : Text} {bound : Nat}
    (hblanks : Text.isBlank blanks = true) (hpiece : token.IsWritten piece)
    (hread : readToken? (piece ++ rest) = some (token, rest)) :
    readTokens? (bound + 1) (blanks ++ (piece ++ rest)) =
      (readTokens? bound rest).map (token :: ·) := by
  obtain ⟨c, u, rfl, hc⟩ := hpiece.exists_cons
  have htrim : Text.trimStart (blanks ++ (c :: u ++ rest)) = c :: (u ++ rest) := by
    rw [Text.trimStart_blanks hblanks, List.cons_append, Text.trimStart, List.dropWhile_cons, hc,
      if_neg Bool.false_ne_true]
  rw [List.cons_append] at hread
  rw [readTokens?.eq_def]
  simp only [htrim, hread]

/-- Tokens are read to the last where operands and operators alternate. -/
theorem readTokens?_areWritten {ts : List (Token Term)} {t : Text} (h : Token.AreWritten ts t)
    {operand : Bool} (hts : Alternating operand ts) {bound : Nat} (hbound : ts.length ≤ bound) :
    readTokens? bound t = some ts := by
  induction h generalizing operand bound with
  | @nil blanks hblanks =>
    have htrim : Text.trimStart blanks = [] := by
      simpa [Text.trimStart] using Text.trimStart_blanks hblanks []
    simp [readTokens?, htrim]
  | @cons token ts blanks piece rest hblanks hpiece hrest ih =>
    cases bound with
    | zero => cases hbound
    | succ bound =>
      have hlength : ts.length ≤ bound := Nat.le_of_succ_le_succ hbound
      have hbreak : Alternating false ts → ∀ c ∈ rest.head?, isBreak c = true :=
        fun halternating c hc => (hrest.isBreak halternating c hc).1
      suffices hread : readToken? (piece ++ rest) = some (token, rest) ∧
          ∃ operand', Alternating operand' ts by
        obtain ⟨hread, operand', halternating⟩ := hread
        rw [readTokens?_cons hblanks hpiece hread, ih halternating hlength, Option.map_some]
      cases hts with
      | number n halternating =>
        cases hpiece with
        | number hn => exact ⟨readToken?_number hn (hbreak halternating), _, halternating⟩
      | dice term halternating =>
        cases hpiece with
        | dice hterm => exact ⟨readToken?_dice hterm (hbreak halternating), _, halternating⟩
      | minus halternating =>
        cases hpiece with
        | operator op => exact ⟨readToken?_operator .subtract, _, halternating⟩
      | opening halternating =>
        cases hpiece with
        | opening => exact ⟨rfl, _, halternating⟩
      | operator op halternating =>
        cases hpiece with
        | operator op => exact ⟨readToken?_operator op, _, halternating⟩
      | closing halternating =>
        cases hpiece with
        | closing => exact ⟨rfl, _, halternating⟩

/-- Tokens that alternate are read as they are written. There are no more of them than characters,
so the bound on their number is no limit. -/
theorem tokens?_areWritten {ts : List (Token Term)} {t : Text} (h : Token.AreWritten ts t)
    (hts : Alternating true ts) : tokens? t = some ts :=
  readTokens?_areWritten h hts h.length_le

end Notation

namespace Arith

variable {δ : Type}

/-- Reading tokens on a level leads to another level, with an operand just read. -/
def LeadsTo (level : Level δ) (ts : List (Token δ)) (level' : Level δ) (operand : Arith δ) : Prop :=
  ∀ outer rest, resume level outer none (ts ++ rest) = resume level' outer (some operand) rest

/-- How the tokens of an expression of a rank are read: which levels can take it, and what of it
waits on the level when its last operand has been read. -/
def IsReadAs : Rank → List (Token δ) → Arith δ → Prop
  | .atom, ts, e => ∀ level, LeadsTo level ts level e
  | .factor, ts, e => ∃ n operand, Level.negated n operand = e ∧
      ∀ level, LeadsTo level ts { level with minuses := level.minuses + n } operand
  | .product, ts, e => ∀ sum, ∃ level operand, level.sum = sum ∧ level.productWith operand = e ∧
      LeadsTo ⟨sum, none, 0⟩ ts level operand
  | .sum, ts, e => ∃ level operand, level.sumWith operand = e ∧ LeadsTo .start ts level operand

/-- An expression in parentheses is read on a level of its own, which its end completes. -/
theorem isReadAs_parenthesized {ts : List (Token δ)} {e : Arith δ} (h : IsReadAs .sum ts e) :
    IsReadAs .atom (.opening :: (ts ++ [.closing])) e := by
  obtain ⟨inner, operand, hsum, hleads⟩ := h
  intro level outer rest
  have hinner := hleads (level :: outer) (.closing :: rest)
  calc resume level outer none (.opening :: (ts ++ [.closing]) ++ rest)
      = resume .start (level :: outer) none (ts ++ .closing :: rest) := by simp [resume]
    _ = resume level outer (some (inner.sumWith operand)) rest := by rw [hinner]; rfl
    _ = resume level outer (some e) rest := by rw [hsum]

/-- A minus sign before a factor waits on the level with those behind it. -/
theorem isReadAs_negated {ts : List (Token δ)} {e : Arith δ} (h : IsReadAs .factor ts e) :
    IsReadAs .factor (.operator .subtract :: ts) (.negate e) := by
  obtain ⟨n, operand, hnegated, hleads⟩ := h
  refine ⟨n + 1, operand, by rw [Level.negated, hnegated], ?_⟩
  intro level outer rest
  have hnext := hleads { level with minuses := level.minuses + 1 } outer rest
  have hminuses : level.minuses + 1 + n = level.minuses + (n + 1) := by omega
  rw [hminuses] at hnext
  exact hnext

/-- A factor alone is a product whose operand waits for its minus signs. -/
theorem isReadAs_factor {ts : List (Token δ)} {e : Arith δ} (h : IsReadAs .factor ts e) :
    IsReadAs .product ts e := by
  obtain ⟨n, operand, hnegated, hleads⟩ := h
  intro sum
  refine ⟨_, operand, rfl, ?_, hleads ⟨sum, none, 0⟩⟩
  simpa [Level.productWith, Level.complete] using hnegated

/-- A product waits with its operator while the factor behind it is read. -/
theorem isReadAs_multiplied {op : Operator} (hop : op.isAdditive = false)
    {ts us : List (Token δ)} {l r : Arith δ} (hl : IsReadAs .product ts l)
    (hr : IsReadAs .factor us r) :
    IsReadAs .product (ts ++ .operator op :: us) (.binary op l r) := by
  obtain ⟨n, right, hnegated, hright⟩ := hr
  intro sum
  obtain ⟨level, left, hsum, hproduct, hleft⟩ := hl sum
  have hnext : level.next left op = ⟨sum, some (l, op), 0⟩ := by
    simp [Level.next, hop, hsum, hproduct]
  refine ⟨⟨sum, some (l, op), 0 + n⟩, right, rfl, ?_, fun outer rest => ?_⟩
  · simp [Level.productWith, Level.complete, hnegated]
  · calc resume ⟨sum, none, 0⟩ outer none (ts ++ .operator op :: us ++ rest)
        = resume level outer (some left) (.operator op :: (us ++ rest)) := by
          rw [← hleft]; simp
      _ = resume ⟨sum, some (l, op), 0⟩ outer none (us ++ rest) := by rw [← hnext]; rfl
      _ = resume ⟨sum, some (l, op), 0 + n⟩ outer (some right) rest := hright _ outer rest

/-- A product alone is a sum. -/
theorem isReadAs_product {ts : List (Token δ)} {e : Arith δ} (h : IsReadAs .product ts e) :
    IsReadAs .sum ts e := by
  obtain ⟨level, operand, hsum, hproduct, hleads⟩ := h none
  refine ⟨level, operand, ?_, hleads⟩
  rw [Level.sumWith, hsum, hproduct]
  rfl

/-- A sum waits with its operator while the product behind it is read. -/
theorem isReadAs_added {op : Operator} (hop : op.isAdditive = true) {ts us : List (Token δ)}
    {l r : Arith δ} (hl : IsReadAs .sum ts l) (hr : IsReadAs .product us r) :
    IsReadAs .sum (ts ++ .operator op :: us) (.binary op l r) := by
  obtain ⟨level, left, hleft, hleads⟩ := hl
  obtain ⟨level', right, hsum, hproduct, hright⟩ := hr (some (l, op))
  have hnext : level.next left op = ⟨some (l, op), none, 0⟩ := by simp [Level.next, hop, hleft]
  refine ⟨level', right, ?_, fun outer rest => ?_⟩
  · rw [Level.sumWith, hsum, hproduct]
    rfl
  · calc resume .start outer none (ts ++ .operator op :: us ++ rest)
        = resume level outer (some left) (.operator op :: (us ++ rest)) := by
          rw [← hleads]; simp
      _ = resume ⟨some (l, op), none, 0⟩ outer none (us ++ rest) := by rw [← hnext]; rfl
      _ = resume level' outer (some right) rest := hright outer rest

/-- Every expression is read as its tree. The induction has one case for each way to build an
expression. -/
theorem isReadAs_of_parses {rank : Rank} {ts : List (Token δ)} {e : Arith δ}
    (h : Parses rank ts e) : IsReadAs rank ts e := by
  induction h with
  | number n => exact fun level outer rest => rfl
  | dice d => exact fun level outer rest => rfl
  | parenthesized h ih => exact isReadAs_parenthesized ih
  | atom h ih => exact ⟨0, _, rfl, ih⟩
  | negated h ih => exact isReadAs_negated ih
  | factor h ih => exact isReadAs_factor ih
  | multiplied hop hl hr ihl ihr => exact isReadAs_multiplied hop ihl ihr
  | product h ih => exact isReadAs_product ih
  | added hop hl hr ihl ihr => exact isReadAs_added hop ihl ihr

/-- The tokens of an expression are read as its tree. -/
theorem ofTokens?_of_parses {ts : List (Token δ)} {e : Arith δ} (h : Parses .sum ts e) :
    ofTokens? ts = some e := by
  obtain ⟨level, operand, hsum, hleads⟩ := isReadAs_of_parses h
  have hend := hleads [] []
  rw [List.append_nil] at hend
  rw [ofTokens?, hend, ← hsum]
  rfl

end Arith

namespace Notation

/-- The reader accepts exactly the expressions and reads each as its tree. -/
theorem readOpen?_eq_some_iff {t : Text} {e : Arith Term} :
    readOpen? t = some e ↔ IsExpression t e := by
  constructor
  · exact isExpression_of_readOpen?
  · rintro ⟨ts, hwritten, hparses⟩
    rw [readOpen?, tokens?_areWritten hwritten hparses.alternating, Option.bind_some,
      Arith.ofTokens?_of_parses hparses]

/-- A text is an expression in at most one way. -/
theorem IsExpression.unique {t : Text} {e e' : Arith Term} (h : IsExpression t e)
    (h' : IsExpression t e') : e = e' := by
  have hread := readOpen?_eq_some_iff.mpr h
  rw [readOpen?_eq_some_iff.mpr h', Option.some.injEq] at hread
  exact hread.symm

end Notation

end DiceBot
