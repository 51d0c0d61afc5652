import DiceBot.Dice.Expression
import DiceBot.Proofs.Text.Classes
import DiceBot.Proofs.Text.Numeral
import DiceBot.Proofs.Text.Words

/-!
# The grammar of dice notation

How an expression over dice is written, stated without the readers. An expression is a sum of
products of operands, where an operand may stand under minus signs and may be an expression in
parentheses. It is written token by token with blanks between and around them. A dice term holds no
blanks, and its number of dice and its faces may be left open; every letter d of a text belongs to
one of its dice terms.
-/

namespace DiceBot

/-- The numeral of a number that may be missing. -/
def Notation.numeral : Option Nat → Text
  | none => []
  | some n => Text.natural n

/-- How a condition may be written: equality may go without its sign. -/
inductive Condition.IsWritten : Condition → Text → Prop
  | signed (comparison : Comparison) {bound : Nat} (hbound : bound ≤ Notation.maxByte) :
      IsWritten ⟨comparison, bound⟩ (comparison.sign ++ Text.natural bound)
  | unsigned {bound : Nat} (hbound : bound ≤ Notation.maxByte) :
      IsWritten ⟨.equal, bound⟩ (Text.natural bound)

/-- How a condition that may be missing may be written. -/
inductive Condition.IsWrittenOptionally : Option Condition → Text → Prop
  | missing : IsWrittenOptionally none []
  | present {c : Condition} {t : Text} (h : c.IsWritten t) : IsWrittenOptionally (some c) t

/-- How a modifier may be written. One die is kept if no number is given. -/
inductive Modifier.IsWritten : Modifier → Text → Prop
  | reroll (untilNone : Bool) {c : Condition} {t : Text} (h : c.IsWritten t) :
      IsWritten (.reroll untilNone c) ((if untilNone then ['r', 'r'] else ['r']) ++ t)
  | explode (untilNone : Bool) {c : Option Condition} {t : Text}
      (h : Condition.IsWrittenOptionally c t) :
      IsWritten (.explode untilNone c) ((if untilNone then ['x'] else ['x', 'o']) ++ t)
  | keepLowest {n : Option Nat} (hn : ∀ m ∈ n, m ≤ Notation.maxByte) :
      IsWritten (.keepLowest (n.getD 1)) (['k', 'l'] ++ Notation.numeral n)
  | keepHighest {n : Option Nat} (hn : ∀ m ∈ n, m ≤ Notation.maxByte) :
      IsWritten (.keepHighest (n.getD 1)) (['k', 'h'] ++ Notation.numeral n)
  | keep {n : Option Nat} (hn : ∀ m ∈ n, m ≤ Notation.maxByte) :
      IsWritten (.keepHighest (n.getD 1)) (['k'] ++ Notation.numeral n)
  | raiseTo {n : Nat} (hn : n ≤ Notation.maxByte) :
      IsWritten (.raiseTo n) (['m', 'i', 'n'] ++ Text.natural n)
  | lowerTo {n : Nat} (hn : n ≤ Notation.maxByte) :
      IsWritten (.lowerTo n) (['m', 'a', 'x'] ++ Text.natural n)

/-- How modifiers are written one after another. -/
inductive Modifier.AreWritten : List Modifier → Text → Prop
  | nil : AreWritten [] []
  | cons {m : Modifier} {ms : List Modifier} {t u : Text} (h : m.IsWritten t)
      (hrest : AreWritten ms u) : AreWritten (m :: ms) (t ++ u)

/-- How a dice term is written. -/
inductive Term.IsWritten : Term → Text → Prop
  | mk {count faces : Option Nat} {modifiers : List Modifier} {t : Text}
      (hcount : ∀ n ∈ count, n ≤ Notation.maxByte) (hfaces : ∀ n ∈ faces, n ≤ Notation.maxByte)
      (h : Modifier.AreWritten modifiers t) :
      IsWritten ⟨count, faces, modifiers⟩
        (Notation.numeral count ++ 'd' :: (Notation.numeral faces ++ t))

/-- How a token is written. -/
inductive Token.IsWritten : Token Term → Text → Prop
  | number {n : Nat} (hn : n ≤ Notation.maxNumber) : IsWritten (.number n) (Text.natural n)
  | dice {term : Term} {t : Text} (h : term.IsWritten t) : IsWritten (.dice term) t
  | operator (op : Operator) : IsWritten (.operator op) [op.sign]
  | opening : IsWritten .opening ['(']
  | closing : IsWritten .closing [')']

/-- How tokens are written, with blanks between and around them. -/
inductive Token.AreWritten : List (Token Term) → Text → Prop
  | nil {blanks : Text} (hblanks : Text.isBlank blanks = true) : AreWritten [] blanks
  | cons {token : Token Term} {ts : List (Token Term)} {blanks t rest : Text}
      (hblanks : Text.isBlank blanks = true) (h : token.IsWritten t) (hrest : AreWritten ts rest) :
      AreWritten (token :: ts) (blanks ++ (t ++ rest))

/-- The ranks of expressions, from those that bind closest on. -/
inductive Rank where
  /-- Numbers, dice and expressions in parentheses. -/
  | atom
  /-- Atoms under minus signs. -/
  | factor
  /-- Factors between multiplicative operators. -/
  | product
  /-- Products between additive operators. -/
  | sum
  deriving DecidableEq, Repr

/-- Which tokens make up an expression of a rank. Operators of one kind group to the left. -/
inductive Arith.Parses {δ : Type} : Rank → List (Token δ) → Arith δ → Prop
  | number (n : Nat) : Parses .atom [.number n] (.number n)
  | dice (d : δ) : Parses .atom [.dice d] (.dice d)
  | parenthesized {ts : List (Token δ)} {e : Arith δ} (h : Parses .sum ts e) :
      Parses .atom (.opening :: (ts ++ [.closing])) e
  | atom {ts : List (Token δ)} {e : Arith δ} (h : Parses .atom ts e) : Parses .factor ts e
  | negated {ts : List (Token δ)} {e : Arith δ} (h : Parses .factor ts e) :
      Parses .factor (.operator .subtract :: ts) (.negate e)
  | factor {ts : List (Token δ)} {e : Arith δ} (h : Parses .factor ts e) : Parses .product ts e
  | multiplied {op : Operator} (hop : op.isAdditive = false) {ts us : List (Token δ)}
      {l r : Arith δ} (hl : Parses .product ts l) (hr : Parses .factor us r) :
      Parses .product (ts ++ .operator op :: us) (.binary op l r)
  | product {ts : List (Token δ)} {e : Arith δ} (h : Parses .product ts e) : Parses .sum ts e
  | added {op : Operator} (hop : op.isAdditive = true) {ts us : List (Token δ)}
      {l r : Arith δ} (hl : Parses .sum ts l) (hr : Parses .product us r) :
      Parses .sum (ts ++ .operator op :: us) (.binary op l r)

/-- Whether a text is an expression with this tree. -/
def Notation.IsExpression (t : Text) (e : Arith Term) : Prop :=
  ∃ ts, Token.AreWritten ts t ∧ Arith.Parses .sum ts e

/-- Whether tokens are such that operands and operators alternate, beginning with an operand if so
asked. -/
inductive Alternating {δ : Type} : (operand : Bool) → List (Token δ) → Prop
  | done : Alternating false []
  | number (n : Nat) {ts : List (Token δ)} (h : Alternating false ts) :
      Alternating true (.number n :: ts)
  | dice (d : δ) {ts : List (Token δ)} (h : Alternating false ts) :
      Alternating true (.dice d :: ts)
  | minus {ts : List (Token δ)} (h : Alternating true ts) :
      Alternating true (.operator .subtract :: ts)
  | opening {ts : List (Token δ)} (h : Alternating true ts) : Alternating true (.opening :: ts)
  | operator (op : Operator) {ts : List (Token δ)} (h : Alternating true ts) :
      Alternating false (.operator op :: ts)
  | closing {ts : List (Token δ)} (h : Alternating false ts) : Alternating false (.closing :: ts)

/-- The dice of a list of tokens, in order. -/
def Token.diceOf {δ : Type} : List (Token δ) → List δ
  | [] => []
  | .dice d :: ts => d :: diceOf ts
  | _ :: ts => diceOf ts

/-- The dice among tokens one after another. -/
theorem Token.diceOf_append {δ : Type} (ts us : List (Token δ)) :
    diceOf (ts ++ us) = diceOf ts ++ diceOf us := by
  induction ts with
  | nil => rfl
  | cons token ts ih => cases token <;> simp [diceOf, ih]

namespace Arith.Parses

variable {δ ε : Type} {rank : Rank} {ts : List (Token δ)} {e : Arith δ}

/-- In an expression operands and operators alternate. -/
theorem alternating_append (h : Parses rank ts e) {rest : List (Token δ)}
    (hrest : Alternating false rest) : Alternating true (ts ++ rest) := by
  induction h generalizing rest with
  | number n => exact .number n hrest
  | dice d => exact .dice d hrest
  | parenthesized h ih =>
    have hclosed := ih (.closing hrest)
    simpa using Alternating.opening hclosed
  | atom h ih => exact ih hrest
  | negated h ih => exact .minus (ih hrest)
  | factor h ih => exact ih hrest
  | multiplied hop hl hr ihl ihr => simpa using ihl (.operator _ (ihr hrest))
  | product h ih => exact ih hrest
  | added hop hl hr ihl ihr => simpa using ihl (.operator _ (ihr hrest))

/-- In an expression operands and operators alternate, beginning with an operand. -/
theorem alternating (h : Parses rank ts e) : Alternating true ts := by
  simpa using h.alternating_append .done

/-- The dice of an expression are those of its tokens in order. -/
theorem leaves_eq (h : Parses rank ts e) : e.leaves = Token.diceOf ts := by
  induction h with
  | number n => rfl
  | dice d => rfl
  | parenthesized h ih => simp [Token.diceOf, Token.diceOf_append, ih]
  | atom h ih => exact ih
  | negated h ih => exact ih
  | factor h ih => exact ih
  | multiplied hop hl hr ihl ihr => simp [leaves, Token.diceOf, Token.diceOf_append, ihl, ihr]
  | product h ih => exact ih
  | added hop hl hr ihl ihr => simp [leaves, Token.diceOf, Token.diceOf_append, ihl, ihr]

/-- Replacing the dice of the tokens replaces those of the expression and nothing else. -/
theorem map (f : δ → ε) (h : Parses rank ts e) : Parses rank (ts.map (Token.map f)) (e.map f) := by
  induction h with
  | number n => exact .number n
  | dice d => exact .dice (f d)
  | parenthesized h ih =>
    rw [List.map_cons, List.map_append]
    exact .parenthesized ih
  | atom h ih => exact .atom ih
  | negated h ih => exact .negated ih
  | factor h ih => exact .factor ih
  | multiplied hop hl hr ihl ihr =>
    rw [List.map_append, List.map_cons]
    exact .multiplied hop ihl ihr
  | product h ih => exact .product ih
  | added hop hl hr ihl ihr =>
    rw [List.map_append, List.map_cons]
    exact .added hop ihl ihr

end Arith.Parses

namespace Notation

theorem d_not_mem_natural (n : Nat) : 'd' ∉ Text.natural n := fun hd =>
  absurd (Text.isDigit_of_mem_natural hd) (by decide)

/-- A numeral that may be missing is made of digits. -/
theorem isDigit_of_mem_numeral {n : Option Nat} {c : Char} (hc : c ∈ numeral n) :
    c.isDigit = true := by
  cases n with
  | none => cases hc
  | some n => exact Text.isDigit_of_mem_natural hc

/-- The characters of modifiers other than digits. -/
def modifierMarks : List Char :=
  ['r', 'x', 'o', 'k', 'h', 'l', 'm', 'i', 'n', 'a', '<', '>', '=']

/-- The letters that begin a modifier. -/
def modifierInitials : List Char := ['r', 'x', 'k', 'm']

end Notation

/-- Whether a character is one of those that modifiers are made of. -/
def Modifier.IsMark (c : Char) : Prop := c.isDigit = true ∨ c ∈ Notation.modifierMarks

/-- Letters of modifiers and marks behind them are marks. -/
theorem Modifier.isMark_of_mem_append {letters t : Text} {c : Char}
    (hletters : letters.all Notation.modifierMarks.contains = true) (ht : ∀ d ∈ t, IsMark d)
    (hc : c ∈ letters ++ t) : IsMark c := by
  rcases List.mem_append.mp hc with hletter | hmem
  · exact Or.inr (List.contains_iff_mem.mp (List.all_eq_true.mp hletters c hletter))
  · exact ht c hmem

theorem Modifier.isMark_of_mem_natural {n : Nat} {c : Char} (hc : c ∈ Text.natural n) :
    IsMark c := Or.inl (Text.isDigit_of_mem_natural hc)

theorem Modifier.isMark_of_mem_numeral {n : Option Nat} {c : Char}
    (hc : c ∈ Notation.numeral n) : IsMark c := Or.inl (Notation.isDigit_of_mem_numeral hc)

/-- A condition is written with marks only. -/
theorem Condition.IsWritten.isMark {condition : Condition} {t : Text} (h : condition.IsWritten t) :
    ∀ c ∈ t, Modifier.IsMark c := by
  intro c hc
  cases h with
  | signed comparison hbound =>
    refine Modifier.isMark_of_mem_append ?_ (fun d => Modifier.isMark_of_mem_natural) hc
    cases comparison <;> decide
  | unsigned hbound => exact Modifier.isMark_of_mem_natural hc

/-- So is one that may be missing. -/
theorem Condition.IsWrittenOptionally.isMark {condition : Option Condition} {t : Text}
    (h : IsWrittenOptionally condition t) : ∀ c ∈ t, Modifier.IsMark c := by
  cases h with
  | missing => exact fun c hc => absurd hc List.not_mem_nil
  | present h => exact h.isMark

/-- A modifier is written with marks only. -/
theorem Modifier.IsWritten.isMark {m : Modifier} {t : Text} (h : m.IsWritten t) :
    ∀ c ∈ t, IsMark c := by
  intro c hc
  cases h with
  | reroll untilNone h => exact isMark_of_mem_append (by cases untilNone <;> decide) h.isMark hc
  | explode untilNone h => exact isMark_of_mem_append (by cases untilNone <;> decide) h.isMark hc
  | keepLowest hn => exact isMark_of_mem_append (by decide) (fun d => isMark_of_mem_numeral) hc
  | keepHighest hn => exact isMark_of_mem_append (by decide) (fun d => isMark_of_mem_numeral) hc
  | keep hn => exact isMark_of_mem_append (by decide) (fun d => isMark_of_mem_numeral) hc
  | raiseTo hn => exact isMark_of_mem_append (by decide) (fun d => isMark_of_mem_natural) hc
  | lowerTo hn => exact isMark_of_mem_append (by decide) (fun d => isMark_of_mem_natural) hc

/-- So are modifiers one after another. -/
theorem Modifier.AreWritten.isMark {ms : List Modifier} {t : Text} (h : AreWritten ms t) :
    ∀ c ∈ t, IsMark c := by
  induction h with
  | nil => exact fun c hc => absurd hc List.not_mem_nil
  | cons h hrest ih =>
    intro c hc
    rcases List.mem_append.mp hc with hmem | hmem
    · exact h.isMark c hmem
    · exact ih c hmem

/-- Modifiers hold no letter d. -/
theorem Modifier.AreWritten.d_not_mem {ms : List Modifier} {t : Text} (h : AreWritten ms t) :
    'd' ∉ t := by
  intro hd
  rcases h.isMark 'd' hd with hdigit | hmark
  · exact absurd hdigit (by decide)
  · exact absurd hmark (by decide)

/-- A modifier begins with one of four letters. -/
theorem Modifier.IsWritten.exists_cons {m : Modifier} {t : Text} (h : m.IsWritten t) :
    ∃ c ∈ Notation.modifierInitials, ∃ rest, t = c :: rest := by
  cases h with
  | reroll untilNone h => cases untilNone <;> exact ⟨'r', by decide, _, rfl⟩
  | explode untilNone h => cases untilNone <;> exact ⟨'x', by decide, _, rfl⟩
  | keepLowest hn => exact ⟨'k', by decide, _, rfl⟩
  | keepHighest hn => exact ⟨'k', by decide, _, rfl⟩
  | keep hn => exact ⟨'k', by decide, _, rfl⟩
  | raiseTo hn => exact ⟨'m', by decide, _, rfl⟩
  | lowerTo hn => exact ⟨'m', by decide, _, rfl⟩

/-- After modifiers, or where there are none, a text goes on with what follows them or with the
letter of a modifier. -/
theorem Modifier.AreWritten.head?_append {ms : List Modifier} {t : Text} (h : AreWritten ms t)
    {rest : Text} {c : Char} (hc : c ∈ (t ++ rest).head?) :
    c ∈ Notation.modifierInitials ∨ c ∈ rest.head? := by
  cases h with
  | nil => exact Or.inr hc
  | cons h hrest =>
    obtain ⟨first, hfirst, letters, rfl⟩ := h.exists_cons
    obtain rfl : first = c := by simpa using hc
    exact Or.inl hfirst

/-- No blank is a letter d. -/
theorem Text.d_not_mem_blanks {blanks : Text} (h : isBlank blanks = true) : 'd' ∉ blanks :=
  fun hd => absurd (List.all_eq_true.mp h 'd' hd) (by decide)

namespace Notation

/-- Whether a character may stand next to a token whatever the token is: blanks, signs of operators
and parentheses. -/
def isBreak (c : Char) : Bool :=
  Text.isBlankChar c || (Operator.ofSign? c).isSome || c == '(' || c == ')'

/-- A blank may stand next to any token. -/
theorem isBreak_of_isBlankChar {c : Char} (hc : Text.isBlankChar c = true) : isBreak c = true := by
  simp only [isBreak, hc, Bool.true_or]

/-- So may the sign of an operator. -/
theorem isBreak_sign (op : Operator) : isBreak op.sign = true := by
  cases op <;> decide

/-- An operator that is read from a sign has that sign. -/
theorem sign_of_ofSign? {c : Char} {op : Operator} (h : Operator.ofSign? c = some op) :
    op.sign = c := by
  unfold Operator.ofSign? at h
  split at h <;> cases h <;> rfl

/-- The letters that begin a modifier are neither digits nor stand next to other tokens. -/
theorem of_mem_modifierInitials {c : Char} (hc : c ∈ modifierInitials) :
    c.isDigit = false ∧ isBreak c = false := by
  have hall : modifierInitials.all (fun d => !d.isDigit && !isBreak d) = true := by decide
  simpa using List.all_eq_true.mp hall c hc

/-- What may stand next to any token is no letter d and no digit of any script. -/
theorem isBreak_cases {c : Char} (hc : isBreak c = true) :
    c ≠ 'd' ∧ c.isDigit = false ∧ Text.isDecimalDigit c = false := by
  suffices h : Text.isDecimalDigit c = false by
    refine ⟨?_, ?_, h⟩
    · rintro rfl
      exact absurd hc (by decide)
    · rw [Bool.eq_false_iff]
      intro hdigit
      exact Bool.false_ne_true (h.symm.trans (Text.isDecimalDigit_of_isDigit hdigit))
  simp only [isBreak, Bool.or_eq_true, beq_iff_eq, Option.isSome_iff_exists] at hc
  rcases hc with ((hblank | ⟨op, hop⟩) | rfl) | rfl
  · exact Text.isDecimalDigit_of_isBlankChar hblank
  · rw [← sign_of_ofSign? hop]
    cases op <;> decide
  · decide
  · decide

end Notation

namespace Token

/-- An operand is followed by a character that may stand next to any token, but not by an opening
parenthesis. -/
theorem AreWritten.isBreak {t : Text} {ts : List (Token Term)} (h : AreWritten ts t)
    (hts : Alternating false ts) : ∀ c ∈ t.head?, Notation.isBreak c = true ∧ c ≠ '(' := by
  have hblank : ∀ c, Text.isBlankChar c = true → Notation.isBreak c = true ∧ c ≠ '(' := by
    intro c hc
    refine ⟨Notation.isBreak_of_isBlankChar hc, ?_⟩
    rintro rfl
    exact absurd hc (by decide)
  intro c hc
  cases h with
  | @nil blanks hblanks =>
    exact hblank c (List.all_eq_true.mp hblanks c (List.mem_of_mem_head? hc))
  | @cons token ts blanks piece rest hblanks hpiece hrest =>
    cases blanks with
    | cons b blanks =>
      obtain rfl : b = c := by simpa using hc
      exact hblank b (List.all_eq_true.mp hblanks b List.mem_cons_self)
    | nil =>
      cases hts with
      | operator op hts =>
        cases hpiece with
        | operator op =>
          obtain rfl : op.sign = c := by simpa using hc
          refine ⟨Notation.isBreak_sign op, ?_⟩
          cases op <;> decide
      | closing hts =>
        cases hpiece with
        | closing =>
          obtain rfl : ')' = c := by simpa using hc
          exact ⟨by decide, by decide⟩

/-- What a token is where tokens alternate: an operand, behind which an operator is due, or a single
character that may stand next to any token. Behind a closing parenthesis no operand is due. -/
inductive Stands (ts : List (Token Term)) : (operand : Bool) → Token Term → Text → Prop
  | number {n : Nat} (hn : n ≤ Notation.maxNumber) (h : Alternating false ts) :
      Stands ts true (.number n) (Text.natural n)
  | dice {term : Term} {piece : Text} (hterm : term.IsWritten piece) (h : Alternating false ts) :
      Stands ts true (.dice term) piece
  | mark {operand operand' : Bool} {token : Token Term} {c : Char}
      (hbreak : Notation.isBreak c = true) (hclosing : operand' = true → c ≠ ')')
      (hmap : ∀ f : Term → Term, token.map f = token) (hdice : diceOf (token :: ts) = diceOf ts)
      (h : Alternating operand' ts) : Stands ts operand token [c]

/-- Every token among tokens that alternate is one of these. -/
theorem stands {operand : Bool} {token : Token Term} {ts : List (Token Term)} {piece : Text}
    (hts : Alternating operand (token :: ts)) (hpiece : token.IsWritten piece) :
    Stands ts operand token piece := by
  cases hts with
  | number n h =>
    cases hpiece with
    | number hn => exact .number hn h
  | dice term h =>
    cases hpiece with
    | dice hterm => exact .dice hterm h
  | minus h =>
    cases hpiece with
    | operator op =>
      exact .mark (Notation.isBreak_sign .subtract) (fun _ => by decide) (fun f => rfl) rfl h
  | opening h =>
    cases hpiece with
    | opening => exact .mark (by decide) (fun _ => by decide) (fun f => rfl) rfl h
  | operator op h =>
    cases hpiece with
    | operator op =>
      exact .mark (Notation.isBreak_sign op) (fun _ => by cases op <;> decide) (fun f => rfl) rfl h
  | closing h =>
    cases hpiece with
    | closing => exact .mark (by decide) (fun hdue => by cases hdue) (fun f => rfl) rfl h

end Token

end DiceBot
