import DiceBot.Proofs.Dice.Grammar

/-!
# What is read is written

Every reader takes a piece off the front of a text that is written as the grammar says, so what the
readers accept as an expression is one. For the reader of expressions the invariant is that each
level holds the tokens of what waits on it.
-/

namespace DiceBot

/-- A text of which nothing is left without its leading blanks is blank. -/
theorem Text.isBlank_of_trimStart_eq_nil {t : Text} (h : trimStart t = []) : isBlank t = true := by
  obtain ⟨blanks, hblanks, ht, -⟩ := startsAt_trimStart t
  rw [h, List.append_nil] at ht
  exact ht ▸ hblanks

namespace Notation

/-- A number is read off its numeral. -/
theorem readNumber?_eq_some {t rest : Text} {n : Nat} (h : readNumber? t = some (n, rest)) :
    t = Text.natural n ++ rest := by
  cases t with
  | nil => cases h
  | cons c t =>
    simp only [readNumber?] at h
    by_cases hzero : c = '0'
    · simp only [hzero, if_true, Option.some.injEq, Prod.mk.injEq] at h
      obtain ⟨rfl, rfl⟩ := h
      rw [hzero]
      rfl
    · cases hc : c.isDigit with
      | false =>
        simp only [hzero, hc, Bool.false_eq_true, if_false, reduceCtorEq] at h
      | true =>
        simp only [hzero, hc, if_true, if_false, Option.some.injEq, Prod.mk.injEq] at h
        obtain ⟨rfl, rfl⟩ := h
        have hdigits : ∀ d ∈ t.takeWhile Char.isDigit, d.isDigit = true :=
          fun d hd => List.all_eq_true.mp (List.all_takeWhile) d hd
        rw [Text.natural_ofDigitChars hc hzero hdigits, List.cons_append,
          List.takeWhile_append_dropWhile]

/-- A number that is read as a byte is one and stands in front of the rest. -/
theorem readByte?_eq_some {t rest : Text} {n : Nat} (h : readByte? t = some (n, rest)) :
    n ≤ maxByte ∧ t = Text.natural n ++ rest := by
  rw [readByte?, Option.filter_eq_some_iff, Nat.ble_eq] at h
  exact ⟨h.2, readNumber?_eq_some h.1⟩

/-- So is one that may be missing, if it is there. -/
theorem readOptionalByte?_eq_some {t rest : Text} {n : Option Nat}
    (h : readOptionalByte? t = some (n, rest)) :
    (∀ m ∈ n, m ≤ maxByte) ∧ t = numeral n ++ rest := by
  simp only [readOptionalByte?] at h
  cases hn : readNumber? t with
  | none =>
    simp only [hn, Option.some.injEq, Prod.mk.injEq] at h
    obtain ⟨rfl, rfl⟩ := h
    exact ⟨fun m hm => (by cases hm), rfl⟩
  | some r =>
    obtain ⟨m, u⟩ := r
    simp only [hn, Option.ite_none_right_eq_some, Option.some.injEq, Prod.mk.injEq] at h
    obtain ⟨hm, rfl, rfl⟩ := h
    refine ⟨?_, readNumber?_eq_some hn⟩
    rintro m' ⟨⟩
    exact hm

/-- A sign is read, or there is none and equality is meant. -/
theorem readComparison_cases (t : Text) :
    t = (readComparison t).1.sign ++ (readComparison t).2 ∨
      ((readComparison t).1 = .equal ∧ t = (readComparison t).2) := by
  unfold readComparison
  split <;> simp [Comparison.sign]

/-- A condition that is read is written in front of the rest. -/
theorem readCondition?_eq_some {t rest : Text} {c : Condition}
    (h : readCondition? t = some (c, rest)) : ∃ piece, c.IsWritten piece ∧ t = piece ++ rest := by
  simp only [readCondition?, Option.map_eq_some_iff, Prod.mk.injEq, Prod.exists] at h
  obtain ⟨bound, u, hbyte, rfl, rfl⟩ := h
  obtain ⟨hbound, hrest⟩ := readByte?_eq_some hbyte
  rcases readComparison_cases t with hsign | ⟨hequal, hsame⟩
  · refine ⟨_, .signed _ hbound, ?_⟩
    rw [List.append_assoc, ← hrest]
    exact hsign
  · rw [hequal]
    exact ⟨_, .unsigned hbound, hsame.trans hrest⟩

/-- What is read behind the letters of a reroll is a condition. -/
theorem readReroll?_eq_some {untilNone : Bool} {t rest : Text} {m : Modifier}
    (h : readReroll? untilNone t = some (m, rest)) :
    ∃ c piece, m = .reroll untilNone c ∧ c.IsWritten piece ∧ t = piece ++ rest := by
  simp only [readReroll?, Option.map_eq_some_iff, Prod.mk.injEq, Prod.exists] at h
  obtain ⟨c, u, hc, rfl, rfl⟩ := h
  obtain ⟨piece, hpiece, rfl⟩ := readCondition?_eq_some hc
  exact ⟨c, piece, rfl, hpiece, rfl⟩

/-- What is read behind the letters of an explosion is a condition, or nothing. -/
theorem readExplode_eq {untilNone : Bool} {t rest : Text} {m : Modifier}
    (h : readExplode untilNone t = (m, rest)) :
    ∃ c piece, m = .explode untilNone c ∧ Condition.IsWrittenOptionally c piece ∧
      t = piece ++ rest := by
  unfold readExplode at h
  split at h
  · next c u hc =>
    obtain ⟨rfl, rfl⟩ := Prod.mk.inj h
    obtain ⟨piece, hpiece, rfl⟩ := readCondition?_eq_some hc
    exact ⟨some c, piece, rfl, .present hpiece, rfl⟩
  · obtain ⟨rfl, rfl⟩ := Prod.mk.inj h
    exact ⟨none, [], rfl, .missing, rfl⟩

/-- What is read behind the letters that keep dice is a number, or nothing. -/
theorem readKeep?_eq_some {keep : Nat → Modifier} {t rest : Text} {m : Modifier}
    (h : readKeep? keep t = some (m, rest)) :
    ∃ n : Option Nat, m = keep (n.getD 1) ∧ (∀ k ∈ n, k ≤ maxByte) ∧ t = numeral n ++ rest := by
  simp only [readKeep?, Option.map_eq_some_iff, Prod.mk.injEq, Prod.exists] at h
  obtain ⟨n, u, hn, rfl, rfl⟩ := h
  obtain ⟨hfits, hrest⟩ := readOptionalByte?_eq_some hn
  exact ⟨n, rfl, hfits, hrest⟩

/-- What is read behind the letters of a bound is a number. -/
theorem readBound?_eq_some {modifier : Nat → Modifier} {t rest : Text} {m : Modifier}
    (h : readBound? modifier t = some (m, rest)) :
    ∃ n, m = modifier n ∧ n ≤ maxByte ∧ t = Text.natural n ++ rest := by
  simp only [readBound?, Option.map_eq_some_iff, Prod.mk.injEq, Prod.exists] at h
  obtain ⟨n, u, hn, rfl, rfl⟩ := h
  obtain ⟨hfits, hrest⟩ := readByte?_eq_some hn
  exact ⟨n, rfl, hfits, hrest⟩

/-- A modifier that is read is written in front of the rest. -/
theorem readModifier?_eq_some {t rest : Text} {m : Modifier}
    (h : readModifier? t = some (m, rest)) : ∃ piece, m.IsWritten piece ∧ t = piece ++ rest := by
  unfold readModifier? at h
  split at h
  · obtain ⟨c, piece, rfl, hc, rfl⟩ := readReroll?_eq_some h
    exact ⟨_, .reroll true hc, rfl⟩
  · obtain ⟨c, piece, rfl, hc, rfl⟩ := readReroll?_eq_some h
    exact ⟨_, .reroll false hc, rfl⟩
  · obtain ⟨c, piece, rfl, hc, rfl⟩ := readExplode_eq (Option.some.inj h)
    exact ⟨_, .explode false hc, rfl⟩
  · obtain ⟨c, piece, rfl, hc, rfl⟩ := readExplode_eq (Option.some.inj h)
    exact ⟨_, .explode true hc, rfl⟩
  · obtain ⟨n, rfl, hn, rfl⟩ := readKeep?_eq_some h
    exact ⟨_, .keepLowest hn, rfl⟩
  · obtain ⟨n, rfl, hn, rfl⟩ := readKeep?_eq_some h
    exact ⟨_, .keepHighest hn, rfl⟩
  · obtain ⟨n, rfl, hn, rfl⟩ := readKeep?_eq_some h
    exact ⟨_, .keep hn, rfl⟩
  · obtain ⟨n, rfl, hn, rfl⟩ := readBound?_eq_some h
    exact ⟨_, .raiseTo hn, rfl⟩
  · obtain ⟨n, rfl, hn, rfl⟩ := readBound?_eq_some h
    exact ⟨_, .lowerTo hn, rfl⟩
  · cases h

/-- So are the modifiers that are read one after another. -/
theorem exists_readModifiers (bound : Nat) (t : Text) :
    ∃ piece, Modifier.AreWritten (readModifiers bound t).1 piece ∧
      t = piece ++ (readModifiers bound t).2 := by
  induction bound generalizing t with
  | zero => exact ⟨[], .nil, rfl⟩
  | succ bound ih =>
    simp only [readModifiers]
    cases hm : readModifier? t with
    | none => exact ⟨[], .nil, rfl⟩
    | some r =>
      obtain ⟨m, u⟩ := r
      obtain ⟨first, hfirst, rfl⟩ := readModifier?_eq_some hm
      obtain ⟨piece, hpiece, hrest⟩ := ih u
      refine ⟨first ++ piece, .cons hfirst hpiece, ?_⟩
      rw [List.append_assoc, ← hrest]

/-- Dice that are read behind their number and the letter d are written there. -/
theorem readTerm?_eq_some {count : Option Nat} {t rest : Text} {term : Term}
    (hcount : ∀ n ∈ count, n ≤ maxByte) (h : readTerm? count t = some (term, rest)) :
    ∃ piece, term.IsWritten piece ∧ numeral count ++ 'd' :: t = piece ++ rest := by
  simp only [readTerm?, Option.map_eq_some_iff, Prod.mk.injEq, Prod.exists] at h
  obtain ⟨faces, tail, hbyte, rfl, rfl⟩ := h
  obtain ⟨hfaces, rfl⟩ := readOptionalByte?_eq_some hbyte
  obtain ⟨piece, hpiece, hrest⟩ := exists_readModifiers tail.length tail
  refine ⟨_, .mk hcount hfaces hpiece, ?_⟩
  simp [← hrest]

/-- What is read behind a number is a token that begins with the number. -/
theorem readAfterNumber?_eq_some {n : Nat} {t rest : Text} {token : Token Term}
    (h : readAfterNumber? n t = some (token, rest)) :
    ∃ piece, token.IsWritten piece ∧ Text.natural n ++ t = piece ++ rest := by
  unfold readAfterNumber? at h
  split at h
  · simp only [Option.ite_none_right_eq_some, Option.map_eq_some_iff, Prod.mk.injEq,
      Prod.exists] at h
    obtain ⟨hn, term, u, hterm, rfl, rfl⟩ := h
    have hcount : ∀ m ∈ some n, m ≤ maxByte := by
      rintro m ⟨⟩
      exact hn
    obtain ⟨piece, hpiece, hrest⟩ := readTerm?_eq_some hcount hterm
    exact ⟨piece, .dice hpiece, hrest⟩
  · simp only [Option.ite_none_right_eq_some, Option.some.injEq, Prod.mk.injEq] at h
    obtain ⟨hn, rfl, rfl⟩ := h
    exact ⟨Text.natural n, .number hn, rfl⟩

/-- A token that is read is written in front of the rest. -/
theorem readToken?_eq_some {t rest : Text} {token : Token Term}
    (h : readToken? t = some (token, rest)) :
    ∃ piece, token.IsWritten piece ∧ t = piece ++ rest := by
  unfold readToken? at h
  split at h
  · obtain ⟨rfl, rfl⟩ := h
    exact ⟨['('], .opening, rfl⟩
  · obtain ⟨rfl, rfl⟩ := h
    exact ⟨[')'], .closing, rfl⟩
  · simp only [Option.map_eq_some_iff, Prod.mk.injEq, Prod.exists] at h
    obtain ⟨term, u, hterm, rfl, rfl⟩ := h
    have hcount : ∀ m ∈ (none : Option Nat), m ≤ maxByte := fun m hm => (by cases hm)
    obtain ⟨piece, hpiece, hrest⟩ := readTerm?_eq_some hcount hterm
    exact ⟨piece, .dice hpiece, hrest⟩
  · split at h
    · rename_i op hsign
      obtain ⟨rfl, rfl⟩ := h
      rw [← sign_of_ofSign? hsign]
      exact ⟨[op.sign], .operator op, rfl⟩
    · simp only [Option.bind_eq_some_iff, Prod.exists] at h
      obtain ⟨n, u, hn, hafter⟩ := h
      rw [readNumber?_eq_some hn]
      exact readAfterNumber?_eq_some hafter
  · cases h

/-- The tokens of a text are none, or the token after leading blanks and those of the rest. -/
theorem readTokens?_cases {bound : Nat} {t : Text} {ts : List (Token Term)}
    (h : readTokens? bound t = some ts) :
    (Text.trimStart t = [] ∧ ts = []) ∨
      ∃ bound' token piece rest ts', bound = bound' + 1 ∧ ts = token :: ts' ∧
        token.IsWritten piece ∧ Text.trimStart t = piece ++ rest ∧
        readTokens? bound' rest = some ts' := by
  unfold readTokens? at h
  split at h
  · rename_i hnil
    exact Or.inl ⟨hnil, (Option.some.inj h).symm⟩
  · cases h
  · rename_i bound' c u hcons
    cases htoken : readToken? (c :: u) with
    | none => simp only [htoken, reduceCtorEq] at h
    | some r =>
      obtain ⟨token, rest⟩ := r
      simp only [htoken, Option.map_eq_some_iff] at h
      obtain ⟨ts', hrest, rfl⟩ := h
      obtain ⟨piece, hpiece, hsplit⟩ := readToken?_eq_some htoken
      exact Or.inr ⟨bound', token, piece, rest, ts', rfl, rfl, hpiece, hcons.trans hsplit, hrest⟩

/-- The tokens of a text are written in it. -/
theorem areWritten_of_readTokens? {bound : Nat} {t : Text} {ts : List (Token Term)}
    (h : readTokens? bound t = some ts) : Token.AreWritten ts t := by
  induction bound generalizing t ts with
  | zero =>
    rcases readTokens?_cases h with ⟨hnil, rfl⟩ | ⟨_, _, _, _, _, hbound, -⟩
    · exact .nil (Text.isBlank_of_trimStart_eq_nil hnil)
    · cases hbound
  | succ bound ih =>
    rcases readTokens?_cases h with
      ⟨hnil, rfl⟩ | ⟨_, token, piece, rest, ts', hbound, rfl, hpiece, hsplit, hrest⟩
    · exact .nil (Text.isBlank_of_trimStart_eq_nil hnil)
    · obtain rfl := Nat.succ.inj hbound
      obtain ⟨blanks, hblanks, ht, -⟩ := Text.startsAt_trimStart t
      rw [ht, hsplit]
      exact .cons hblanks hpiece (ih hrest)

end Notation

namespace Arith

variable {δ : Type}

/-- The tokens of a left operand of a rank and its operator, if one waits for a right operand. -/
inductive Waits (rank : Rank) (additive : Bool) :
    Option (Arith δ × Operator) → List (Token δ) → Prop
  | nothing : Waits rank additive none []
  | operand {ts : List (Token δ)} {e : Arith δ} {op : Operator} (h : Parses rank ts e)
      (hop : op.isAdditive = additive) : Waits rank additive (some (e, op)) (ts ++ [.operator op])

/-- The tokens of what waits on a level. -/
inductive Holds : Level δ → List (Token δ) → Prop
  | mk {level : Level δ} {sums products : List (Token δ)} (hsum : Waits .sum true level.sum sums)
      (hproduct : Waits .product false level.product products) :
      Holds level (sums ++ (products ++ List.replicate level.minuses (.operator .subtract)))

/-- The tokens of what waits on the levels of the open parentheses, innermost first. -/
inductive HoldsAll : List (Level δ) → List (Token δ) → Prop
  | nil : HoldsAll [] []
  | cons {level : Level δ} {outer : List (Level δ)} {ts us : List (Token δ)}
      (h : Holds level us) (hrest : HoldsAll outer ts) :
      HoldsAll (level :: outer) (ts ++ us ++ [.opening])

/-- The tokens of the operand just read, if one was. -/
inductive Focuses : Option (Arith δ) → List (Token δ) → Prop
  | nothing : Focuses none []
  | operand {ts : List (Token δ)} {e : Arith δ} (h : Parses .atom ts e) : Focuses (some e) ts

/-- Minus signs in front of a factor make it a factor. -/
theorem parses_negated {ts : List (Token δ)} {e : Arith δ} (h : Parses .factor ts e) (n : Nat) :
    Parses .factor (List.replicate n (.operator .subtract) ++ ts) (Level.negated n e) := by
  induction n with
  | zero => exact h
  | succ n ih => exact .negated ih

/-- What waits for a factor becomes a product with it. -/
theorem parses_completeProduct {left : Option (Arith δ × Operator)} {ts us : List (Token δ)}
    {e : Arith δ} (hleft : Waits .product false left ts) (h : Parses .factor us e) :
    Parses .product (ts ++ us) (Level.complete left e) := by
  cases hleft with
  | nothing => exact .factor h
  | operand hl hop => simpa [Level.complete] using Parses.multiplied hop hl h

/-- What waits for a product becomes a sum with it. -/
theorem parses_completeSum {left : Option (Arith δ × Operator)} {ts us : List (Token δ)}
    {e : Arith δ} (hleft : Waits .sum true left ts) (h : Parses .product us e) :
    Parses .sum (ts ++ us) (Level.complete left e) := by
  cases hleft with
  | nothing => exact .product h
  | operand hl hop => simpa [Level.complete] using Parses.added hop hl h

namespace Holds

variable {level : Level δ} {ts us : List (Token δ)} {e : Arith δ}

/-- At first nothing waits. -/
theorem start : Holds (Level.start : Level δ) [] := by
  have hnothing : Holds (Level.start : Level δ) _ := .mk .nothing .nothing
  exact hnothing

/-- One more minus sign waits on a level. -/
theorem minus (h : Holds level ts) :
    Holds { level with minuses := level.minuses + 1 } (ts ++ [.operator .subtract]) := by
  cases h with
  | mk hsum hproduct =>
    have hone : Holds { level with minuses := level.minuses + 1 } _ := .mk hsum hproduct
    simpa [List.replicate_succ'] using hone

/-- What waits on a level and an operand make up an expression. -/
theorem sumWith (h : Holds level ts) (he : Parses .atom us e) :
    Parses .sum (ts ++ us) (level.sumWith e) := by
  cases h with
  | mk hsum hproduct =>
    have hfactor := parses_negated (.atom he) level.minuses
    have hwhole := parses_completeSum hsum (parses_completeProduct hproduct hfactor)
    simpa [Level.sumWith, Level.productWith] using hwhole

/-- After an operand and an operator the next level waits. -/
theorem next (h : Holds level ts) (he : Parses .atom us e) (op : Operator) :
    Holds (level.next e op) (ts ++ us ++ [.operator op]) := by
  cases hop : op.isAdditive with
  | true =>
    have hwaits : Waits .sum true _ _ := .operand (h.sumWith he) hop
    have hnext : Holds ⟨some (level.sumWith e, op), none, 0⟩ _ := .mk hwaits .nothing
    simpa [Level.next, hop] using hnext
  | false =>
    cases h with
    | mk hsum hproduct =>
      have hfactor := parses_negated (.atom he) level.minuses
      have hwaits : Waits .product false _ _ :=
        .operand (parses_completeProduct hproduct hfactor) hop
      have hnext : Holds ⟨level.sum, some (level.productWith e, op), 0⟩ _ := .mk hsum hwaits
      simpa [Level.next, hop] using hnext

end Holds

/-- What is read as an expression is one, together with the tokens that were read before: those of
the open parentheses, those of the level and those of the operand just read. -/
theorem parses_of_resume {level : Level δ} {outer : List (Level δ)} {focus : Option (Arith δ)}
    {ts : List (Token δ)} {e : Arith δ} (h : resume level outer focus ts = some e)
    {before held operand : List (Token δ)} (hbefore : HoldsAll outer before)
    (hheld : Holds level held) (hoperand : Focuses focus operand) :
    Parses .sum (before ++ held ++ operand ++ ts) e := by
  fun_induction resume level outer focus ts generalizing before held operand with
  | case1 level outer n ts ih =>
    cases hoperand
    simpa using ih h hbefore hheld (.operand (.number n))
  | case2 level outer d ts ih =>
    cases hoperand
    simpa using ih h hbefore hheld (.operand (.dice d))
  | case3 level outer ts ih =>
    cases hoperand
    simpa using ih h hbefore hheld.minus .nothing
  | case4 level outer ts ih =>
    cases hoperand
    simpa using ih h (.cons hheld hbefore) .start .nothing
  | case5 level outer a op ts ih =>
    cases hoperand with
    | operand ha => simpa using ih h hbefore (hheld.next ha op) .nothing
  | case6 => cases h
  | case7 level a ts enclosing outer ih =>
    cases hoperand with
    | operand ha =>
      cases hbefore with
      | cons henclosing hbefore =>
        have hclosed := Parses.parenthesized (hheld.sumWith ha)
        simpa using ih h hbefore henclosing (.operand hclosed)
  | case8 level outer a houter =>
    obtain rfl := Option.some.inj h
    obtain rfl := List.isEmpty_iff.mp houter
    cases hbefore
    cases hoperand with
    | operand ha => simpa using hheld.sumWith ha
  | case9 => cases h
  | case10 => cases h

/-- What is the same before and after each replacement is the same for all the dice. -/
theorem map_leaves_of_mapM? {α ε : Type} {f : δ → Option ε} {g : δ → α} {g' : ε → α}
    (hg : ∀ d d', f d = some d' → g d = g' d') {e : Arith δ} {e' : Arith ε}
    (h : mapM? f e = some e') : e.leaves.map g = e'.leaves.map g' := by
  induction e generalizing e' with
  | number n =>
    obtain rfl := Option.some.inj h
    rfl
  | dice d =>
    obtain ⟨d', hd, rfl⟩ := Option.map_eq_some_iff.mp h
    simp only [leaves, List.map_cons, List.map_nil, hg d d' hd]
  | negate e ih =>
    obtain ⟨e'', he, rfl⟩ := Option.map_eq_some_iff.mp h
    have hleaves := ih he
    exact hleaves
  | binary op l r ihl ihr =>
    simp only [mapM?] at h
    cases hl : mapM? f l with
    | none => simp only [hl, reduceCtorEq] at h
    | some l' =>
      cases hr : mapM? f r with
      | none => simp only [hl, hr, reduceCtorEq] at h
      | some r' =>
        simp only [hl, hr, Option.some.injEq] at h
        subst h
        simp only [leaves, List.map_append, ihl hl, ihr hr]

/-- What is read as an expression is one. -/
theorem parses_of_ofTokens? {ts : List (Token δ)} {e : Arith δ} (h : ofTokens? ts = some e) :
    Parses .sum ts e := by
  simpa using parses_of_resume h .nil .start .nothing

end Arith

namespace Notation

/-- Whatever is read as an expression is written as one. -/
theorem isExpression_of_readOpen? {t : Text} {e : Arith Term} (h : readOpen? t = some e) :
    IsExpression t e := by
  obtain ⟨ts, htokens, hts⟩ := Option.bind_eq_some_iff.mp h
  exact ⟨ts, areWritten_of_readTokens? htokens, Arith.parses_of_ofTokens? hts⟩

end Notation

end DiceBot
