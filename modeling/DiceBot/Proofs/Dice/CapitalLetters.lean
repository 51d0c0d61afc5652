import DiceBot.Proofs.Dice.Budget
import DiceBot.Proofs.Dice.Rolling

/-!
# Capital letters and the budget

The budget looks at a text as it is written, the reader at its lower case. A capital letter D makes
a dice term for the reader only, so the budget may miss terms; but it never counts more dice than
the expression asks for.
-/

namespace DiceBot

namespace Text

/-- Whether a character is no digit, no letter d and none that may stand next to any token. -/
def IsInner (c : Char) : Prop := c ≠ 'd' ∧ c.isDigit = false ∧ Notation.isBreak c = false

instance (c : Char) : Decidable (IsInner c) := inferInstanceAs (Decidable (_ ∧ _ ∧ _))

/-- Beyond ASCII only blanks may stand next to any token. -/
theorem isInner_of_not_ascii {c : Char} (hc : 0x80 ≤ c.toNat) (hblank : isBlankChar c = false) :
    IsInner c := by
  have hne : ∀ d : Char, d.toNat < 0x80 → c ≠ d := by
    rintro d hd rfl
    omega
  refine ⟨hne 'd' (by decide), ?_, ?_⟩
  · rw [Bool.eq_false_iff]
    intro hdigit
    have := isDigit_iff.mp hdigit
    omega
  · have hsign : Operator.ofSign? c = none := by
      cases hop : Operator.ofSign? c with
      | none => rfl
      | some op =>
        have hop := Notation.sign_of_ofSign? hop
        refine absurd hop.symm (hne op.sign ?_)
        cases op <;> decide
    rw [Notation.isBreak, hblank, hsign, beq_eq_false_iff_ne.mpr (hne '(' (by decide)),
      beq_eq_false_iff_ne.mpr (hne ')' (by decide))]
    rfl

/-- A character is its own small letter, or the capital D, or goes to an inner character. -/
theorem lowerChar_inner (c : Char) : lowerChar c = c ∨ c = 'D' ∨ IsInner (lowerChar c) := by
  by_cases hc : c.toNat < 0x80
  · rw [lowerChar_of_ascii hc]
    exact of_toNat_lt (P := fun c => c.toLower = c ∨ c = 'D' ∨ IsInner c.toLower)
      (by decide +kernel) hc
  · rcases lowerChar_of_not_ascii (Nat.le_of_not_lt hc) with hsame | hk | ⟨hhigh, hblank⟩
    · exact Or.inl hsame
    · rw [hk]
      exact Or.inr (Or.inr (by decide))
    · exact Or.inr (Or.inr (isInner_of_not_ascii hhigh hblank))

/-- In lower case a character stays, or is the capital D, or becomes one or more inner
characters. -/
theorem lowerAt_cases (before : Text) (c : Char) (after : Text) :
    lowerAt before c after = [c] ∨ (c = 'D' ∧ lowerAt before c after = ['d']) ∨
      (c ≠ 'd' ∧ lowerAt before c after ≠ [] ∧ ∀ b ∈ lowerAt before c after, IsInner b) := by
  have hne := lowerAt_ne_nil before c after
  by_cases hfixed : c ≠ 'Σ' ∧ c ≠ 'İ'
  · rw [lowerAt_of_fixed hfixed.1 hfixed.2] at hne ⊢
    rcases lowerChar_inner c with hsame | hcapital | hinner
    · exact Or.inl (congrArg (fun b => [b]) hsame)
    · exact Or.inr (Or.inl ⟨hcapital, by rw [hcapital]; decide⟩)
    · refine Or.inr (Or.inr ⟨?_, hne, ?_⟩)
      · rintro rfl
        exact absurd hinner (by decide)
      · intro b hb
        rw [List.mem_singleton.mp hb]
        exact hinner
  · refine Or.inr (Or.inr ⟨?_, hne, ?_⟩)
    · rintro rfl
      exact hfixed (by decide)
    · intro b hb
      rcases mem_lowerAt hb with hspecial | ⟨hsigma, hdotted, -⟩
      · rcases mem_specialSmall_iff.mp hspecial with rfl | rfl | rfl | rfl <;> decide
      · exact absurd ⟨hsigma, hdotted⟩ hfixed

/-- Whether a text is the lower case of another that follows some characters. -/
def LowersTo (t u : Text) : Prop := ∃ before, lowerFrom before t = u

theorem lowersTo_nil {t : Text} (h : LowersTo t []) : t = [] := by
  obtain ⟨before, h⟩ := h
  cases t with
  | nil => rfl
  | cons c t =>
    have hempty := (List.append_eq_nil_iff.mp h).1
    rcases lowerAt_cases before c t with hsame | ⟨-, hletter⟩ | ⟨-, hne, -⟩
    · rw [hsame] at hempty
      cases hempty
    · rw [hletter] at hempty
      cases hempty
    · exact absurd hempty hne

/-- A first character that is not inner stands in the text itself, but the letter d may be
capital. -/
theorem lowersTo_cons {t u : Text} {b : Char} (h : LowersTo t (b :: u)) (hb : ¬IsInner b) :
    ∃ c t', t = c :: t' ∧ (c = b ∨ (c = 'D' ∧ b = 'd')) ∧ LowersTo t' u := by
  obtain ⟨before, h⟩ := h
  cases t with
  | nil => cases h
  | cons c t =>
    rw [lowerFrom] at h
    rcases lowerAt_cases before c t with hsame | ⟨hcapital, hletter⟩ | ⟨-, hne, hinner⟩
    · rw [hsame, List.singleton_append, List.cons.injEq] at h
      exact ⟨c, t, rfl, Or.inl h.1, _, h.2⟩
    · rw [hletter, List.singleton_append, List.cons.injEq] at h
      exact ⟨c, t, rfl, Or.inr ⟨hcapital, h.1.symm⟩, _, h.2⟩
    · obtain ⟨b', rest, hcons⟩ := List.exists_cons_of_ne_nil hne
      rw [hcons, List.cons_append, List.cons.injEq] at h
      refine absurd (hinner b' ?_) (h.1 ▸ hb)
      rw [hcons]
      exact List.mem_cons_self

/-- Such a character other than the letter d stands in the text itself. -/
theorem lowersTo_cons_of_ne_d {t u : Text} {b : Char} (h : LowersTo t (b :: u)) (hb : ¬IsInner b)
    (hd : b ≠ 'd') : ∃ t', t = b :: t' ∧ LowersTo t' u := by
  obtain ⟨c, t', rfl, rfl | ⟨-, hb'⟩, ht'⟩ := lowersTo_cons h hb
  · exact ⟨t', rfl, ht'⟩
  · exact absurd hb' hd

theorem not_isInner_of_isDigit {c : Char} (hc : c.isDigit = true) : ¬IsInner c := by
  intro h
  rw [h.2.1] at hc
  cases hc

theorem not_isInner_of_isBreak {c : Char} (hc : Notation.isBreak c = true) : ¬IsInner c := by
  intro h
  rw [h.2.2] at hc
  cases hc

/-- Digits stand in the text itself. -/
theorem lowersTo_digits {digits t u : Text} (hdigits : ∀ c ∈ digits, c.isDigit = true)
    (h : LowersTo t (digits ++ u)) : ∃ t', t = digits ++ t' ∧ LowersTo t' u := by
  induction digits generalizing t with
  | nil => exact ⟨t, rfl, h⟩
  | cons c digits ih =>
    have hc := hdigits c List.mem_cons_self
    have hd : c ≠ 'd' := by
      rintro rfl
      exact absurd hc (by decide)
    obtain ⟨t', rfl, ht'⟩ := lowersTo_cons_of_ne_d h (not_isInner_of_isDigit hc) hd
    obtain ⟨t'', rfl, ht''⟩ := ih (fun d hmem => hdigits d (List.mem_cons_of_mem c hmem)) ht'
    exact ⟨t'', rfl, ht''⟩

/-- A piece without the letter d that ends the text, or that a character which may stand next to any
token follows, comes from a piece without the letter d. -/
theorem lowersTo_append {t piece rest : Text} (hpiece : 'd' ∉ piece)
    (hrest : ∀ b ∈ rest.head?, Notation.isBreak b = true) (h : LowersTo t (piece ++ rest)) :
    ∃ piece' t', 'd' ∉ piece' ∧ t = piece' ++ t' ∧ LowersTo t' rest := by
  obtain ⟨before, h⟩ := h
  induction t generalizing before piece with
  | nil =>
    obtain ⟨rfl, rfl⟩ := List.append_eq_nil_iff.mp h.symm
    exact ⟨[], [], List.not_mem_nil, rfl, [], rfl⟩
  | cons c t ih =>
    cases piece with
    | nil => exact ⟨[], c :: t, List.not_mem_nil, rfl, before, h⟩
    | cons b piece =>
      rw [List.mem_cons, not_or] at hpiece
      rw [lowerFrom] at h
      -- The piece goes on after all the characters that the first one became.
      have hnext : ∀ piece', 'd' ∉ piece' → c ≠ 'd' →
          lowerFrom (c :: before) t = piece' ++ rest →
            ∃ piece'' t', 'd' ∉ piece'' ∧ c :: t = piece'' ++ t' ∧ LowersTo t' rest := by
        intro piece' hpiece' hc htail
        obtain ⟨piece'', t', hd, rfl, ht'⟩ := ih hpiece' (c :: before) htail
        refine ⟨c :: piece'', t', ?_, rfl, ht'⟩
        rw [List.mem_cons, not_or]
        exact ⟨Ne.symm hc, hd⟩
      rcases lowerAt_cases before c t with hsame | ⟨-, hletter⟩ | ⟨hc, hne, hinner⟩
      · rw [hsame, List.singleton_append, List.cons_append, List.cons.injEq] at h
        exact hnext piece hpiece.2 (h.1 ▸ Ne.symm hpiece.1) h.2
      · rw [hletter, List.singleton_append, List.cons_append, List.cons.injEq] at h
        exact absurd h.1 hpiece.1
      · rcases List.append_eq_append_iff.mp h with ⟨middle, hcons, htail⟩ | ⟨middle, hlower, htail⟩
        · apply hnext middle ?_ hc htail
          intro hd
          have hmem : 'd' ∈ b :: piece := by
            rw [hcons]
            exact List.mem_append_right _ hd
          rcases List.mem_cons.mp hmem with heq | hmem
          · exact hpiece.1 heq
          · exact hpiece.2 hmem
        · cases middle with
          | nil => exact hnext [] List.not_mem_nil hc htail.symm
          | cons first middle =>
            have hbreak := hrest first (by rw [htail]; rfl)
            refine absurd (hinner first ?_) (not_isInner_of_isBreak hbreak)
            rw [hlower]
            exact List.mem_append_right _ List.mem_cons_self

end Text

namespace Budget

open Text (LowersTo)

/-- After an operand the search begins anew. -/
theorem countsFrom_of_lowersTo {t u : Text} {ts : List (Token Term)}
    (hwritten : Token.AreWritten ts u) (hts : Alternating false ts) (h : LowersTo t u)
    {search : Search} (hsearch : search.isLettered = false) :
    countsFrom search t = countsFrom .idle t := by
  cases u with
  | nil =>
    rw [Text.lowersTo_nil h]
    cases search <;> rfl
  | cons b u =>
    have hbreak := (hwritten.isBreak hts b rfl).1
    obtain ⟨t', rfl, -⟩ := Text.lowersTo_cons_of_ne_d h (Text.not_isInner_of_isBreak hbreak)
      (Notation.isBreak_cases hbreak).1
    rw [countsFrom_break hbreak hsearch, countsFrom_break hbreak rfl]

/-- Blanks before a token are passed over. -/
theorem exists_countsFrom_of_blanks {t blanks u : Text} (hblanks : Text.isBlank blanks = true)
    (h : LowersTo t (blanks ++ u)) :
    ∃ t', LowersTo t' u ∧ countsFrom .idle t = countsFrom .idle t' := by
  induction blanks generalizing t with
  | nil => exact ⟨t, h, rfl⟩
  | cons b blanks ih =>
    obtain ⟨hb, hblanks⟩ := Bool.and_eq_true_iff.mp hblanks
    have hbreak := Notation.isBreak_of_isBlankChar hb
    obtain ⟨t', rfl, ht'⟩ := Text.lowersTo_cons_of_ne_d h (Text.not_isInner_of_isBreak hbreak)
      (Notation.isBreak_cases hbreak).1
    obtain ⟨t'', ht'', hcounts⟩ := ih hblanks ht'
    rw [countsFrom_break hbreak rfl]
    exact ⟨t'', ht'', hcounts⟩

/-- Of a dice term that a text in lower case begins with, the text itself gives up at most the
number of dice. -/
theorem exists_countsFrom_of_term {count : Option Nat} {faces : Nat} {t piece rest : Text}
    (hpiece : 'd' ∉ piece) (hrest : ∀ b ∈ rest.head?, Notation.isBreak b = true)
    (h : LowersTo t (Notation.numeral count ++ 'd' :: (Text.natural faces ++ (piece ++ rest)))) :
    ∃ (ns : List Nat) (t' : Text) (search : Search), ns.sum ≤ count.getD 1 ∧
      LowersTo t' rest ∧ search.isLettered = false ∧
      countsFrom .idle t = ns.map Text.natural ++ countsFrom search t' := by
  have hcount : ∀ c ∈ Notation.numeral count, c.isDigit = true := by
    cases count with
    | none => exact fun c hc => absurd hc List.not_mem_nil
    | some n => exact fun c hc => Text.isDigit_of_mem_natural hc
  have hnumeral : 'd' ∉ Notation.numeral count := fun hd => absurd (hcount 'd' hd) (by decide)
  obtain ⟨u, rfl, hu⟩ := Text.lowersTo_digits hcount h
  obtain ⟨c, v, rfl, hc, hv⟩ := Text.lowersTo_cons hu (by decide)
  obtain ⟨w, rfl, hw⟩ := Text.lowersTo_digits (fun c hc => Text.isDigit_of_mem_natural hc) hv
  obtain ⟨piece', t', hpiece', rfl, ht'⟩ := Text.lowersTo_append hpiece hrest hw
  have hfaces := Notation.d_not_mem_natural faces
  rcases hc with rfl | ⟨rfl, -⟩
  · cases count with
    | some n =>
      obtain ⟨search, hsearch, hterm⟩ := exists_countsFrom_term n faces
      obtain ⟨search', hsearch', hcounts⟩ := exists_countsFrom_append hpiece' search hsearch
      refine ⟨[n], t', search', Nat.le_refl n, ht', hsearch', ?_⟩
      rw [Notation.numeral, hterm, hcounts]
      rfl
    | none =>
      have hskip : ∀ rest, countsFrom .idle ('d' :: rest) = countsFrom .idle rest := by
        intro rest
        rw [countsFrom, isDecimalDigit_d, if_neg Bool.false_ne_true]
      obtain ⟨search, hsearch, hnumber⟩ := exists_countsFrom_append hfaces .idle rfl
      obtain ⟨search', hsearch', hcounts⟩ := exists_countsFrom_append hpiece' search hsearch
      refine ⟨[], t', search', Nat.zero_le _, ht', hsearch', ?_⟩
      rw [Notation.numeral, List.nil_append, hskip, hnumber, hcounts]
      rfl
  · obtain ⟨first, hfirst, hnumber⟩ := exists_countsFrom_append hnumeral .idle rfl
    obtain ⟨second, hsecond, hletter⟩ :=
      exists_countsFrom_cons (show 'D' ≠ 'd' by decide) hfirst
    obtain ⟨third, hthird, hnumber'⟩ := exists_countsFrom_append hfaces second hsecond
    obtain ⟨search, hsearch, hcounts⟩ := exists_countsFrom_append hpiece' third hthird
    refine ⟨[], t', search, Nat.zero_le _, ht', hsearch, ?_⟩
    rw [hnumber, hletter, hnumber', hcounts]
    rfl

/-- Of a text whose lower case consists of alternating operands and operators, the budget counts no
more dice than the terms ask for. The induction is on the tokens of the lower case. -/
theorem exists_countsFrom_of_lowersTo {t u : Text} {ts : List (Token Term)} {operand : Bool}
    (hwritten : Token.AreWritten ts u) (hts : Alternating operand ts)
    (hfaces : ∀ term ∈ Token.diceOf ts, term.faces ≠ none) (h : LowersTo t u) :
    ∃ ns : List Nat, countsFrom .idle t = ns.map Text.natural ∧
      ns.sum ≤ ((Token.diceOf ts).map (·.count.getD 1)).sum := by
  induction hwritten generalizing t operand with
  | @nil blanks hblanks =>
    rw [← List.append_nil blanks] at h
    obtain ⟨t', ht', hcounts⟩ := exists_countsFrom_of_blanks hblanks h
    rw [hcounts, Text.lowersTo_nil ht']
    exact ⟨[], rfl, Nat.le_refl 0⟩
  | @cons token ts blanks piece rest hblanks hpiece hrest ih =>
    obtain ⟨t', ht', hcounts⟩ := exists_countsFrom_of_blanks hblanks h
    rw [hcounts]
    cases Token.stands hts hpiece with
    | @number n hn halternating =>
      obtain ⟨t'', rfl, ht''⟩ :=
        Text.lowersTo_digits (fun c hc => Text.isDigit_of_mem_natural hc) ht'
      obtain ⟨search, hsearch, hnumber⟩ :=
        exists_countsFrom_append (Notation.d_not_mem_natural n) .idle rfl
      have hterms : ∀ term ∈ Token.diceOf ts, term.faces ≠ none := hfaces
      rw [hnumber, countsFrom_of_lowersTo hrest halternating ht'' hsearch]
      have hcounted := ih halternating hterms ht''
      exact hcounted
    | dice hterm halternating =>
      cases hterm with
      | @mk count faces modifiers letters hcount hbound hmodifiers =>
        obtain ⟨f, rfl⟩ := Option.ne_none_iff_exists'.mp (hfaces _ List.mem_cons_self)
        have hnext : ∀ b ∈ rest.head?, Notation.isBreak b = true :=
          fun b hb => (hrest.isBreak halternating b hb).1
        rw [List.append_assoc, List.cons_append, List.append_assoc, Notation.numeral] at ht'
        obtain ⟨ns, t'', search, hsum, ht'', hsearch, hcounted⟩ :=
          exists_countsFrom_of_term hmodifiers.d_not_mem hnext ht'
        obtain ⟨ns', hns', hsum'⟩ := ih halternating
          (fun other hmem => hfaces other (List.mem_cons_of_mem _ hmem)) ht''
        refine ⟨ns ++ ns', ?_, ?_⟩
        · rw [hcounted, countsFrom_of_lowersTo hrest halternating ht'' hsearch, hns',
            List.map_append]
        · rw [List.sum_append, Token.diceOf, List.map_cons, List.sum_cons]
          exact Nat.add_le_add hsum hsum'
    | mark hbreak hclosing hmap hdice halternating =>
      obtain ⟨t'', rfl, ht''⟩ := Text.lowersTo_cons_of_ne_d ht'
        (Text.not_isInner_of_isBreak hbreak) (Notation.isBreak_cases hbreak).1
      rw [hdice] at hfaces ⊢
      rw [countsFrom_break hbreak rfl]
      exact ih halternating hfaces ht''

/-- The budget never counts more dice than are asked for by an expression that the lower case is
read as. -/
theorem total_le_diceAsked {t : Text} {e : Arith Dice}
    (h : Notation.IsRollable (Text.lower t) e) : total t ≤ e.diceAsked := by
  obtain ⟨e', ⟨ts, hwritten, hparses⟩, hdice⟩ := h
  have hparts : ∀ (term : Term) (d : Dice), term.dice? = some d →
      (term.count.getD 1, term.faces.isSome) = (d.count, true) := by
    intro term d hd
    obtain ⟨sides, hsides, rfl⟩ := Option.map_eq_some_iff.mp hd
    rw [hsides]
    rfl
  have hcounts := Arith.map_leaves_of_mapM? (fun term d hd => congrArg Prod.fst (hparts term d hd))
    hdice
  have hsome := Arith.map_leaves_of_mapM? (fun term d hd => congrArg Prod.snd (hparts term d hd))
    hdice
  have hfaces : ∀ term ∈ Token.diceOf ts, term.faces ≠ none := by
    intro term hterm hnone
    rw [← hparses.leaves_eq] at hterm
    have hmem : term.faces.isSome ∈ e'.leaves.map fun term => term.faces.isSome :=
      List.mem_map_of_mem hterm
    rw [hsome, hnone] at hmem
    obtain ⟨d, -, htrue⟩ := List.mem_map.mp hmem
    cases htrue
  obtain ⟨ns, hns, hsum⟩ :=
    exists_countsFrom_of_lowersTo hwritten hparses.alternating hfaces ⟨[], rfl⟩
  rw [← hparses.leaves_eq, hcounts] at hsum
  rw [total_eq_min hns]
  exact Nat.le_trans (Nat.min_le_left _ _) hsum

end Budget

end DiceBot
