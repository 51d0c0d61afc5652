import Mathlib.Algebra.GroupWithZero.Nat
import DiceBot.Dice.Evaluation
import DiceBot.Proofs.Dice.Gaps
import DiceBot.Proofs.Dice.Lawful
import DiceBot.Proofs.Text.LowerCase

/-!
# The budget counts what is read

The dice budget never reads the text it counts dice in: it only looks for digits, the letter d and a
digit. In a text in which every gap is filled, and which can be read, it finds the number of dice of
every term exactly once and in order. The digit that is lost to each find is one of the faces, and
between the faces of one term and the number of dice of the next there is always a character that
ends the search for digits.
-/

namespace DiceBot

namespace Budget

/-- Whether the letter of a dice term was read last. -/
def Search.isLettered : Search → Bool
  | lettered _ => true
  | _ => false

/-- Any character but the letter d only moves the search on. -/
theorem exists_countsFrom_cons {c : Char} (hc : c ≠ 'd') {search : Search}
    (hsearch : search.isLettered = false) :
    ∃ search' : Search, search'.isLettered = false ∧
      ∀ rest, countsFrom search (c :: rest) = countsFrom search' rest := by
  cases search with
  | idle =>
    refine ⟨if Text.isDecimalDigit c then .run [c] else .idle, ?_, fun rest => rfl⟩
    split <;> rfl
  | run digits =>
    refine ⟨if Text.isDecimalDigit c then .run (c :: digits) else .idle, ?_, ?_⟩
    · split <;> rfl
    · intro rest
      rw [countsFrom, if_neg hc]
      split <;> rfl
  | lettered digits => cases hsearch

/-- A piece without the letter d holds no number of dice, and leaves no letter behind. -/
theorem exists_countsFrom_append {piece : Text} (hpiece : 'd' ∉ piece) (search : Search)
    (hsearch : search.isLettered = false) :
    ∃ search' : Search, search'.isLettered = false ∧
      ∀ rest, countsFrom search (piece ++ rest) = countsFrom search' rest := by
  induction piece generalizing search with
  | nil => exact ⟨search, hsearch, fun rest => rfl⟩
  | cons c piece ih =>
    rw [List.mem_cons, not_or] at hpiece
    obtain ⟨hc, hpiece⟩ := hpiece
    obtain ⟨next, hnext, hcons⟩ := exists_countsFrom_cons (Ne.symm hc) hsearch
    obtain ⟨search', hsearch', happend⟩ := ih hpiece next hnext
    refine ⟨search', hsearch', ?_⟩
    intro rest
    rw [List.cons_append, hcons, happend]

/-- Digits of any script are collected. -/
theorem countsFrom_run_append {digits : Text} (hdigits : ∀ c ∈ digits, c.isDigit = true)
    (before rest : Text) :
    countsFrom (.run before) (digits ++ rest) =
      countsFrom (.run (digits.reverse ++ before)) rest := by
  induction digits generalizing before with
  | nil => rfl
  | cons c digits ih =>
    have hc := Text.isDecimalDigit_of_isDigit (hdigits c List.mem_cons_self)
    have hrest := ih (fun d hd => hdigits d (List.mem_cons_of_mem c hd)) (c :: before)
    rw [List.cons_append, countsFrom, if_pos hc, hrest, List.reverse_cons, List.append_assoc,
      List.singleton_append]

theorem isDecimalDigit_d : Text.isDecimalDigit 'd' = false := by decide

/-- A numeral, the letter d and a digit hold one number of dice. -/
theorem countsFrom_natural_d (n : Nat) {c : Char} (hc : c.isDigit = true) (rest : Text) :
    countsFrom .idle (Text.natural n ++ 'd' :: c :: rest) =
      Text.natural n :: countsFrom .idle rest := by
  obtain ⟨first, digits, hn, hfirst, hdigits⟩ := Text.exists_natural_eq_cons n
  rw [hn, List.cons_append, countsFrom, if_pos (Text.isDecimalDigit_of_isDigit hfirst),
    countsFrom_run_append hdigits]
  rw [countsFrom, isDecimalDigit_d, if_neg Bool.false_ne_true, if_pos rfl, countsFrom,
    if_pos (Text.isDecimalDigit_of_isDigit hc), List.reverse_append, List.reverse_reverse,
    List.reverse_singleton, List.singleton_append]

/-- A character that may stand next to any token ends the search for digits. -/
theorem countsFrom_break {c : Char} (hc : Notation.isBreak c = true) {search : Search}
    (hsearch : search.isLettered = false) (rest : Text) :
    countsFrom search (c :: rest) = countsFrom .idle rest := by
  obtain ⟨hd, -, hdigit⟩ := Notation.isBreak_cases hc
  cases search with
  | idle => rw [countsFrom, hdigit, if_neg Bool.false_ne_true]
  | run digits => rw [countsFrom, hdigit, if_neg Bool.false_ne_true, if_neg hd]
  | lettered digits => cases hsearch

/-- Blanks hold no number of dice. -/
theorem countsFrom_blanks {blanks : Text} (hblanks : Text.isBlank blanks = true) (rest : Text) :
    countsFrom .idle (blanks ++ rest) = countsFrom .idle rest := by
  induction blanks with
  | nil => rfl
  | cons c blanks ih =>
    obtain ⟨hc, hblanks⟩ := Bool.and_eq_true_iff.mp hblanks
    rw [List.cons_append, countsFrom_break (Notation.isBreak_of_isBlankChar hc) rfl, ih hblanks]

theorem foldl_cutOff (ns : List Nat) (sum : Nat) (hsum : sum ≤ ceiling) :
    ns.foldl (fun sum n => min (sum + n) ceiling) sum = min (sum + ns.sum) ceiling := by
  induction ns generalizing sum with
  | nil => simp only [List.foldl_nil, List.sum_nil, Nat.add_zero, Nat.min_eq_left hsum]
  | cons n ns ih =>
    rw [List.foldl_cons, ih _ (Nat.min_le_right _ _), List.sum_cons]
    omega

/-- Cutting off before adding up makes no difference to what is cut off afterwards. -/
theorem min_sum_cutOff (ns : List Nat) :
    min (ns.map (min · ceiling)).sum ceiling = min ns.sum ceiling := by
  induction ns with
  | nil => rfl
  | cons n ns ih =>
    rw [List.map_cons, List.sum_cons, List.sum_cons]
    omega

/-- The total is the sum of the values of what is found, cut off at the ceiling. -/
theorem total_eq (t : Text) : total t = min ((counts t).map countValue).sum ceiling := by
  rw [total, foldl_cutOff _ 0 (Nat.zero_le _), Nat.zero_add]

/-- The total of numbers of dice is their sum, cut off at the ceiling. -/
theorem total_eq_min {t : Text} {ns : List Nat} (h : counts t = ns.map Text.natural) :
    total t = min ns.sum ceiling := by
  have hvalues : (counts t).map countValue = ns.map (min · ceiling) := by
    rw [h, List.map_map]
    apply List.map_congr_left
    intro n hn
    simp only [Function.comp_apply, countValue, Text.natural?_natural]
  rw [total_eq, hvalues, min_sum_cutOff]

/-- A bound of 32 bits lies below the ceiling, so cutting off makes no difference. -/
theorem allows_iff {t : Text} {ns : List Nat} (h : counts t = ns.map Text.natural)
    (maxDice : UInt32) : allows maxDice t = true ↔ ns.sum ≤ maxDice.toNat := by
  have hmax : maxDice.toNat < 2 ^ 32 := maxDice.toNat_lt
  have hceiling : ceiling = 2 ^ 64 - 1 := rfl
  rw [allows, Nat.ble_eq, total_eq_min h]
  omega

variable (defaults : DiceDefaults)

/-- The number of dice of a term as it is written when gaps are filled in. -/
def countOf (term : Term) : Text := Text.natural (term.count.getD defaults.count.toNat)

/-- After a character that may stand next to any token the search begins anew. -/
theorem countsFrom_expandAfter_break {c : Char} (hc : Notation.isBreak c = true) {search : Search}
    (hsearch : search.isLettered = false) (before : Option Char) (rest : Text) :
    countsFrom search (defaults.expandAfter before (c :: rest)) =
      countsFrom .idle (defaults.expandAfter (some c) rest) := by
  rw [DiceDefaults.expandAfter, if_neg (Notation.isBreak_cases hc).1, countsFrom_break hc hsearch]

/-- After an operand the search begins anew. -/
theorem countsFrom_afterOperand {t : Text} {ts : List (Token Term)}
    (hwritten : Token.AreWritten ts t) (hts : Alternating false ts) {search : Search}
    (hsearch : search.isLettered = false) (before : Option Char) :
    countsFrom search (defaults.expandAfter before t) =
      countsFrom .idle (defaults.expandAfter before t) := by
  cases t with
  | nil => cases search <;> rfl
  | cons c rest =>
    have hbreak := (hwritten.isBreak hts c rfl).1
    rw [countsFrom_expandAfter_break defaults hbreak hsearch,
      countsFrom_expandAfter_break defaults hbreak rfl]

/-- A numeral, the letter d and a numeral hold one number of dice. -/
theorem exists_countsFrom_term (n faces : Nat) :
    ∃ search : Search, search.isLettered = false ∧ ∀ rest,
      countsFrom .idle (Text.natural n ++ 'd' :: (Text.natural faces ++ rest)) =
        Text.natural n :: countsFrom search rest := by
  obtain ⟨c, digits, hfaces, hc, hdigits⟩ := Text.exists_natural_eq_cons faces
  have hd : 'd' ∉ digits := fun hd => absurd (hdigits 'd' hd) (by decide)
  obtain ⟨search, hsearch, hrest⟩ := exists_countsFrom_append hd .idle rfl
  refine ⟨search, hsearch, ?_⟩
  intro rest
  rw [hfaces, List.cons_append, countsFrom_natural_d n hc, hrest]

/-- In a text of alternating operands and operators whose gaps are filled in, the numbers of dice of
its terms are found in order and nothing else. The induction is on the tokens, and the search is
idle where a token begins. -/
theorem countsFrom_expandAfter {t : Text} {ts : List (Token Term)} {operand : Bool}
    (hwritten : Token.AreWritten ts t) (hts : Alternating operand ts) {before : Option Char}
    (hbefore : operand = true → DiceDefaults.endsCount before = false) :
    countsFrom .idle (defaults.expandAfter before t) =
      (Token.diceOf ts).map (countOf defaults) := by
  induction hwritten generalizing operand before with
  | @nil blanks hblanks =>
    have hcounts := countsFrom_blanks hblanks []
    rw [← List.append_nil blanks, defaults.expandAfter_append (Text.d_not_mem_blanks hblanks)]
    exact hcounts
  | @cons token ts blanks piece rest hblanks hpiece hrest ih =>
    rw [defaults.expandAfter_append (Text.d_not_mem_blanks hblanks), countsFrom_blanks hblanks]
    have hblank : operand = true →
        DiceDefaults.endsCount (blanks.getLast?.or before) = false :=
      fun hoperand => DiceDefaults.endsCount_blanks hblanks (hbefore hoperand)
    cases Token.stands hts hpiece with
    | @number n hn halternating =>
      obtain ⟨search, hsearch, hcounts⟩ :=
        exists_countsFrom_append (Notation.d_not_mem_natural n) .idle rfl
      rw [defaults.expandAfter_append (Notation.d_not_mem_natural n), hcounts,
        countsFrom_afterOperand defaults hrest halternating hsearch]
      exact ih halternating (by simp)
    | @dice term piece hterm halternating =>
      obtain ⟨modifiers, after, hmodifiers, hexpand⟩ :=
        defaults.expandAfter_isWritten hterm (hblank rfl) fun c hc => by
          have hbreak := hrest.isBreak halternating c hc
          exact ⟨(Notation.isBreak_cases hbreak.1).2.1, hbreak.2⟩
      obtain ⟨search, hsearch, hcount⟩ := exists_countsFrom_term
        (term.count.getD defaults.count.toNat) (term.faces.getD defaults.faces.toNat)
      obtain ⟨search', hsearch', hcounts⟩ :=
        exists_countsFrom_append hmodifiers.d_not_mem search hsearch
      rw [hexpand, hcount, hcounts, countsFrom_afterOperand defaults hrest halternating hsearch']
      exact congrArg (countOf defaults term :: ·) (ih halternating (by simp))
    | mark hbreak hclosing hmap hdice halternating =>
      rw [List.singleton_append, countsFrom_expandAfter_break defaults hbreak rfl, hdice]
      exact ih halternating fun hdue => DiceDefaults.endsCount_of_isBreak hbreak (hclosing hdue)

/-- In an expression the numbers of dice of its terms are found, with the default where one is
missing. -/
theorem counts_expand {t : Text} {e : Arith Term} (h : Notation.IsExpression t e) :
    counts (defaults.expand t) = e.leaves.map (countOf defaults) := by
  obtain ⟨ts, hwritten, hparses⟩ := h
  rw [hparses.leaves_eq]
  exact countsFrom_expandAfter defaults hwritten hparses.alternating fun _ => rfl

/-- In a text without gaps that can be rolled the numbers of dice of its terms are found. -/
theorem counts_of_isRollable {t : Text} {e : Arith Dice}
    (h : Notation.IsRollable (defaults.expand t) e) :
    counts (defaults.expand t) = (e.leaves.map Dice.count).map Text.natural := by
  obtain ⟨e', hexpression, hdice⟩ := h
  have hcounts := counts_expand ⟨1, 1⟩ hexpression
  rw [defaults.expand_expand] at hcounts
  have hcount : ∀ (term : Term) (d : Dice), term.dice? = some d →
      countOf ⟨1, 1⟩ term = Text.natural d.count := by
    intro term d hd
    obtain ⟨sides, -, rfl⟩ := Option.map_eq_some_iff.mp hd
    rfl
  rw [hcounts, Arith.map_leaves_of_mapM? hcount hdice, List.map_map]
  rfl

/-- Filling the gaps of a text in lower case gives a text in lower case. -/
theorem lower_expand_lower (w : Text) :
    Text.lower (defaults.expand (Text.lower w)) = defaults.expand (Text.lower w) := by
  apply Text.lower_of_isSmall
  intro c hc
  rcases (defaults.fills_expandAfter none (Text.lower w)).mem hc with hlower | hdigit
  · exact Text.isSmall_of_mem_lower hlower
  · exact Text.isSmall_of_isDigit hdigit

/-- Where the budget or the reader turns a text down, no die is asked for. -/
theorem evaluate_of_refused (box : DiceBox) (config : EvaluatorConfig) (log : List Request)
    {t : Text} (h : allows config.maxRollCount (config.defaults.expand t) = false ∨
      box.library.read? (Text.lower (config.defaults.expand t)) = none) :
    ∃ e, box.evaluate config t log = (.error e, log) := by
  cases hallows : allows config.maxRollCount (config.defaults.expand t) with
  | false =>
    simp only [DiceBox.evaluate, hallows, Bool.false_eq_true, if_false]
    exact ⟨_, rfl⟩
  | true =>
    rcases h with hfalse | hnone
    · cases hallows.symm.trans hfalse
    · simp only [DiceBox.evaluate, hallows, if_true, hnone]
      exact ⟨_, rfl⟩

/-- Of a text in lower case whose gaps are filled in, and which can be read, the budget counts
exactly the dice that the terms ask for, each term once and in order, one without a number of dice
with the number that it gets; so it is allowed exactly if they are no more than allowed. If it is
not allowed or cannot be read, no die is asked for. -/
theorem budget_agrees_with_reading {library : DiceLibrary} (laws : library.Lawful)
    (config : EvaluatorConfig) (w t : Text) (ht : t = config.defaults.expand (Text.lower w)) :
    Text.lower t = t ∧
      (∀ e, library.read? t = some e →
        counts t = (e.leaves.map Dice.count).map Text.natural ∧
          (allows config.maxRollCount t = true ↔
            (e.leaves.map Dice.count).sum ≤ config.maxRollCount.toNat)) ∧
      (∀ e, Notation.IsExpression (Text.lower w) e →
        counts t = (e.leaves.map fun term =>
          term.count.getD config.defaults.count.toNat).map Text.natural) ∧
      (∀ (roller : Roller) (rounds : Nat) (log : List Request),
        allows config.maxRollCount t = false ∨ library.read? t = none →
          ∃ e, DiceBox.evaluate ⟨library, roller, rounds⟩ config (Text.lower w) log =
            (.error e, log)) := by
  subst ht
  have hlower := lower_expand_lower config.defaults w
  refine ⟨hlower, ?_, ?_, ?_⟩
  · intro e he
    have hcounts := counts_of_isRollable config.defaults (laws.read?_eq_some_iff.mp he)
    exact ⟨hcounts, allows_iff hcounts config.maxRollCount⟩
  · intro e he
    rw [counts_expand config.defaults he, List.map_map]
    rfl
  · intro roller rounds log h
    refine evaluate_of_refused ⟨library, roller, rounds⟩ config log ?_
    rw [hlower]
    exact h

/-- Six dice in three terms, of which one has no number of dice and another no faces. -/
theorem budget_agrees_with_reading_three_terms :
    let library := Notation.library []
    let config : EvaluatorConfig := ⟨6, ⟨1, 100⟩⟩
    let w := "2D6xo2 + D8*(3Dkh2 - 1)".toList
    let t := "2d6xo2 + 1d8*(3d100kh2 - 1)".toList
    let tooMany : EvaluatorConfig := ⟨5, ⟨1, 100⟩⟩
    let log : List Request := [.forDie 4]
    library.Lawful ∧ t = config.defaults.expand (Text.lower w) ∧
      (∃ e, library.read? t = some e ∧ counts t = [['2'], ['1'], ['3']] ∧
        (allows config.maxRollCount t = true ↔ 6 ≤ config.maxRollCount.toNat)) ∧
      (∃ e, Notation.IsExpression (Text.lower w) e ∧
        counts t = (e.leaves.map fun term => term.count.getD 1).map Text.natural) ∧
      (allows tooMany.maxRollCount t = false ∧ ∃ fault,
        DiceBox.evaluate ⟨library, .ofFaces [4], 10⟩ tooMany (Text.lower w) log =
          (.error fault, log)) := by
  intro library config w t tooMany log
  have laws : library.Lawful := Notation.library_lawful []
  have ht : t = config.defaults.expand (Text.lower w) := by decide +kernel
  obtain ⟨-, hread, hopen, -⟩ := budget_agrees_with_reading laws config w t ht
  obtain ⟨-, -, -, hrefused⟩ := budget_agrees_with_reading laws tooMany w t ht
  have hsome : (library.read? t).isSome = true := by decide +kernel
  have hsomeOpen : (Notation.readOpen? (Text.lower w)).isSome = true := by decide +kernel
  obtain ⟨e, he⟩ := Option.isSome_iff_exists.mp hsome
  obtain ⟨e', he'⟩ := Option.isSome_iff_exists.mp hsomeOpen
  have hexpression := Notation.readOpen?_eq_some_iff.mp he'
  have hsum : (library.read? t).map (fun e => e.leaves.map Dice.count) = some [2, 1, 3] := by
    decide +kernel
  have hfalse : allows tooMany.maxRollCount t = false := by decide +kernel
  rw [he, Option.map_some, Option.some.injEq] at hsum
  have hcounts := hread e he
  rw [hsum] at hcounts
  exact ⟨laws, ht, ⟨e, he, hcounts⟩, ⟨e', hexpression, hopen e' hexpression⟩, hfalse,
    hrefused (.ofFaces [4]) 10 log (Or.inl hfalse)⟩

end Budget

end DiceBot
