import DiceBot.Proofs.Number.Numeral
import DiceBot.Proofs.Roll.RepeatCount
import DiceBot.Proofs.Text.LowerCase
import DiceBot.Proofs.Text.Words
import DiceBot.Roll.Plan

/-!
# Splitting payloads

A payload that has no plan fails in one of three ways, of which the first that applies is reported:
too many words, too many separators, a repeat count that is none. Any other payload has a plan. The
words are those of the payload as it was sent, the separators those of its first word once
unescaped.
-/

namespace DiceBot

/-- Whether a text, read as a floating-point number without the blanks at its ends, is a whole
number from one to the limit of repeat counts. -/
def RollLimits.IsCount (limits : RollLimits) (t : Text) (n : Nat) : Prop :=
  ∃ u count, Text.TrimsTo t u ∧ Binary64.ofText? u = some count ∧ count.value? = some (n : ℚ) ∧
    1 ≤ n ∧ n ≤ limits.maxRollTimes.toNat

/-- A numeral is a repeat count if the value of the format nearest to the number that it denotes is
one within the limits. -/
theorem RollLimits.isCount_iff {limits : RollLimits} {numeral : Text} {x : ℚ}
    (h : Decimal.Denotes numeral x) {n : Nat} :
    limits.IsCount numeral n ↔
      Binary64.IsNearest x n ∧ 1 ≤ n ∧ n ≤ limits.maxRollTimes.toNat := by
  have htrimmed : Text.IsTrimmed numeral :=
    ⟨fun c hc => (h.isNumeralChar c (List.mem_of_mem_head? hc)).isBlankChar,
      fun c hc => (h.isNumeralChar c (List.mem_of_getLast? hc)).isBlankChar⟩
  constructor
  · rintro ⟨u, count, hu, hread, hvalue, hlow, hhigh⟩
    rw [Text.trimsTo_iff.mp hu, htrimmed.trim_eq] at hread
    have hvalues := Binary64.value?_ofText?_iff h (by omega) (lt_of_le_maxRollTimes hhigh)
    exact ⟨hvalues.mp ⟨count, hread, hvalue⟩, hlow, hhigh⟩
  · rintro ⟨hnearest, hlow, hhigh⟩
    have hvalues := Binary64.value?_ofText?_iff h (by omega) (lt_of_le_maxRollTimes hhigh)
    obtain ⟨count, hread, hvalue⟩ := hvalues.mpr hnearest
    exact ⟨numeral, count, htrimmed.trimsTo, hread, hvalue, hlow, hhigh⟩

namespace RollPlan

/-- Whether a text has one separator, between two parts. -/
def SplitsInto (t left right : Text) : Prop := t = left ++ '#' :: right ∧ '#' ∉ left ∧ '#' ∉ right

/-- Whether dice are those that a part of a payload names; a blank part names the letter d. -/
def Names (part written : Text) : Prop :=
  (Text.isBlank part = true ∧ written = ['d']) ∨ (Text.isBlank part = false ∧ written = part)

/-- The dice that a part names are the part, or the letter d in place of a blank one. -/
theorem names_iff {part written : Text} :
    Names part written ↔ written = orIfBlank defaultDice part := by
  cases hpart : Text.isBlank part <;> simp [Names, orIfBlank, defaultDice, hpart]

/-- What splitting comes to for a payload with these words. -/
inductive Splitting (limits : RollLimits) (ws : List Text) (t : Text) :
    Except RollError RollPlan → Prop
  | tooManyTokens (hlength : 2 < ws.length) :
      Splitting limits ws t (.error (.format .tooManyTokens))
  | tooManySeparators (hlength : ws.length ≤ 2) (ht : 2 ≤ t.count '#') :
      Splitting limits ws t (.error (.format .tooManySeparators))
  | limit {left right : Text} (hlength : ws.length ≤ 2) (ht : SplitsInto t left right)
      (hcount : ∀ n, ¬limits.IsCount left n) :
      Splitting limits ws t (.error (.limit limits.maxRollTimes))
  | once {written : Text} (hlength : ws.length ≤ 2) (ht : '#' ∉ t) (hnames : Names t written) :
      Splitting limits ws t (.ok ⟨1, written, ws[1]?⟩)
  | repeated {left right written : Text} {n : Nat} (hlength : ws.length ≤ 2)
      (ht : SplitsInto t left right) (hcount : limits.IsCount left n)
      (hnames : Names right written) : Splitting limits ws t (.ok ⟨n, written, ws[1]?⟩)

/-- The reason has no part in what dice and repeat count come to. -/
theorem ofExpression_reason (limits : RollLimits) (t : Text) (reason : Option Text) :
    ofExpression limits t reason =
      (ofExpression limits t none).map fun plan => { plan with reason := reason } := by
  unfold ofExpression
  split
  · rfl
  · split
    · rfl
    · cases readRepeatCount limits (t.takeWhile (· != separator)) <;> rfl

/-- The first word of a payload says how often to roll and what, the second why; there may be no
third. -/
theorem ofPayload_eq (limits : RollLimits) (payload : Text) :
    ofPayload limits payload =
      if 2 < (Text.words payload).length then .error (.format .tooManyTokens)
      else (ofPayload limits ((Text.words payload).headD [])).map fun plan =>
        { plan with reason := (Text.words payload)[1]? } := by
  have hword : ∀ word ∈ Text.words payload, Text.words word = [word] :=
    fun word hmem => Text.words_of_mem_words hmem
  rw [ofPayload]
  match hws : Text.words payload with
  | [] => exact ofExpression_reason limits _ none
  | [expression] =>
    rw [hws] at hword
    have hfirst := hword expression List.mem_cons_self
    simp only [ofPayload, List.headD_cons, hfirst]
    exact ofExpression_reason limits _ none
  | [expression, reason] =>
    rw [hws] at hword
    have hfirst := hword expression List.mem_cons_self
    simp only [ofPayload, List.headD_cons, hfirst]
    exact ofExpression_reason limits _ (some reason)
  | first :: second :: third :: others => simp

/-- Payloads with the same words have the same plan. -/
theorem ofPayload_congr {limits : RollLimits} {t u : Text} (h : Text.words t = Text.words u) :
    ofPayload limits t = ofPayload limits u := by
  rw [ofPayload, ofPayload, h]

/-- Reading finds the repeat counts within the limits. -/
theorem readRepeatCount_eq_ok_iff {limits : RollLimits} {t : Text} {n : Nat} :
    readRepeatCount limits t = .ok n ↔ limits.IsCount t n := by
  have hnan : Binary64.nan.value? = none := rfl
  rw [readRepeatCount, RollLimits.checkRepeatCount_eq_ok_iff]
  constructor
  · rintro ⟨hvalue, hrange⟩
    cases hread : Binary64.ofText? (Text.trim t) with
    | none => simp [hread, hnan] at hvalue
    | some count =>
      rw [hread, Option.getD_some] at hvalue
      exact ⟨_, count, Text.trimsTo_iff.mpr rfl, hread, hvalue, hrange⟩
  · rintro ⟨u, count, hu, hread, hvalue, hrange⟩
    rw [← Text.trimsTo_iff.mp hu, hread, Option.getD_some]
    exact ⟨hvalue, hrange⟩

/-- A text that is no repeat count is refused for the limit. -/
theorem readRepeatCount_eq_error {limits : RollLimits} {t : Text}
    (h : ∀ n, ¬limits.IsCount t n) :
    readRepeatCount limits t = .error (.limit limits.maxRollTimes) :=
  RollLimits.checkRepeatCount_eq_error_iff.mpr fun n hn => h n (readRepeatCount_eq_ok_iff.mp hn)

/-- One separator splits a text in two. -/
theorem splitsInto_of_count {t : Text} (h : t.count '#' = 1) :
    ∃ left right, SplitsInto t left right := by
  have hmem : '#' ∈ t := List.count_pos_iff.mp (by omega)
  obtain ⟨left, right, rfl, hleft⟩ := List.eq_append_cons_of_mem hmem
  refine ⟨left, right, rfl, hleft, ?_⟩
  rw [List.count_append, List.count_cons_self, List.count_eq_zero.mpr hleft] at h
  exact List.count_eq_zero.mp (by omega)

/-- A text that splits in two has one separator. -/
theorem SplitsInto.count {t left right : Text} (h : SplitsInto t left right) : t.count '#' = 1 := by
  obtain ⟨rfl, hleft, hright⟩ := h
  rw [List.count_append, List.count_cons_self, List.count_eq_zero.mpr hleft,
    List.count_eq_zero.mpr hright]

/-- The parts are found by looking for the separator. -/
theorem SplitsInto.parts {t left right : Text} (h : SplitsInto t left right) :
    t.takeWhile (· != '#') = left ∧ t.dropWhile (· != '#') = '#' :: right := by
  obtain ⟨rfl, hleft, -⟩ := h
  exact Text.takeWhile_dropWhile_bne hleft right

variable {limits : RollLimits} {t : Text} {reason : Option Text}

/-- Two separators or more are refused. -/
theorem ofExpression_of_tooMany (h : 2 ≤ t.count '#') :
    ofExpression limits t reason = .error (.format .tooManySeparators) := by
  have hmore : 1 < t.count separator := h
  rw [ofExpression, if_pos hmore]

/-- Without a separator there is one roll. -/
theorem ofExpression_of_not_mem (h : '#' ∉ t) :
    ofExpression limits t reason = .ok ⟨1, orIfBlank defaultDice t, reason⟩ := by
  have hdrop : t.dropWhile (· != '#') = [] :=
    Text.dropWhile_eq_iff.mpr
      ⟨t, Text.bne_of_not_mem h, (List.append_nil t).symm, fun c hc => by cases hc⟩
  simp only [ofExpression, separator, List.count_eq_zero.mpr h, hdrop]
  rw [if_neg (by decide)]

/-- With one separator the repeat count is read before it and the dice behind it. -/
theorem SplitsInto.ofExpression_eq {left right : Text} (h : SplitsInto t left right) :
    ofExpression limits t reason = (readRepeatCount limits left).map fun times =>
      ⟨times, orIfBlank defaultDice right, reason⟩ := by
  obtain ⟨htake, hdrop⟩ := h.parts
  simp only [ofExpression, separator, h.count, htake, hdrop]
  rw [if_neg (by decide)]

/-- Splitting a text with the words of a payload comes to one of the five results. -/
theorem splitting_ofExpression {ws : List Text} (hlength : ws.length ≤ 2) :
    Splitting limits ws t (ofExpression limits t ws[1]?) := by
  by_cases htooMany : 2 ≤ t.count '#'
  · rw [ofExpression_of_tooMany htooMany]
    exact .tooManySeparators hlength htooMany
  · by_cases hmem : '#' ∈ t
    · have hpos := List.count_pos_iff.mpr hmem
      obtain ⟨left, right, ht⟩ := splitsInto_of_count (show t.count '#' = 1 by omega)
      rw [ht.ofExpression_eq]
      by_cases hcount : ∃ n, limits.IsCount left n
      · obtain ⟨n, hn⟩ := hcount
        rw [readRepeatCount_eq_ok_iff.mpr hn]
        exact .repeated hlength ht hn (names_iff.mpr rfl)
      · have hnone : ∀ n, ¬limits.IsCount left n := fun n hn => hcount ⟨n, hn⟩
        rw [readRepeatCount_eq_error hnone]
        exact .limit hlength ht hnone
    · rw [ofExpression_of_not_mem hmem]
      exact .once hlength hmem (names_iff.mpr rfl)

/-- Splitting a payload comes to one of the five results. -/
theorem splitting {payload : Text} {ws : List Text} (hws : Text.HasWords payload ws) :
    Splitting limits ws ((ws.head?.map Text.unescape).getD ['d']) (ofPayload limits payload) := by
  rw [ofPayload, Text.words_of_hasWords hws]
  match ws with
  | [] => exact splitting_ofExpression (Nat.zero_le 2)
  | [expression] => exact splitting_ofExpression (show 1 ≤ 2 by decide)
  | [expression, reason] => exact splitting_ofExpression (Nat.le_refl 2)
  | _ :: _ :: _ :: ws => exact .tooManyTokens (by simp)

/-- Dice that a part of a payload names are not blank and have no separator if the part has none. -/
theorem Names.sound {part written : Text} (h : Names part written) (hpart : '#' ∉ part) :
    Text.isBlank written = false ∧ '#' ∉ written := by
  rcases h with ⟨-, rfl⟩ | ⟨hblank, rfl⟩
  · exact ⟨by decide, by decide⟩
  · exact ⟨hblank, hpart⟩

/-- Taking the lower case of dice makes them neither blank nor adds a separator. -/
theorem dice_sound (plan : RollPlan) (hblank : Text.isBlank plan.written = false)
    (hseparator : '#' ∉ plan.written) : Text.isBlank plan.dice = false ∧ '#' ∉ plan.dice := by
  constructor
  · rw [dice, Text.isBlank_lower, hblank]
  · intro hmem
    exact hseparator (Text.mem_of_mem_lower hmem (by decide) (by decide))

namespace Splitting

variable {ws : List Text} {result : Except RollError RollPlan}

/-- Too many words are reported exactly where there are more than two. -/
theorem tooManyTokens_iff (h : Splitting limits ws t result) :
    result = .error (.format .tooManyTokens) ↔ 2 < ws.length := by
  cases h with
  | tooManyTokens hlength => simp [hlength]
  | tooManySeparators hlength ht => simpa using hlength
  | limit hlength ht hcount => simpa using hlength
  | once hlength ht hnames => simpa using hlength
  | repeated hlength ht hcount hnames => simpa using hlength

/-- Too many separators are reported exactly where there are two or more, and no more than two
words. -/
theorem tooManySeparators_iff (h : Splitting limits ws t result) :
    result = .error (.format .tooManySeparators) ↔ ws.length ≤ 2 ∧ 2 ≤ t.count '#' := by
  cases h with
  | tooManyTokens hlength =>
    simp only [Except.error.injEq, RollError.format.injEq, reduceCtorEq, false_iff]
    omega
  | tooManySeparators hlength ht => simp [hlength, ht]
  | limit hlength ht hcount => simp [ht.count]
  | once hlength ht hnames => simp [List.count_eq_zero.mpr ht]
  | repeated hlength ht hcount hnames => simp [ht.count]

/-- The limit is reported exactly where what stands before the one separator is no repeat count. -/
theorem limit_iff (h : Splitting limits ws t result) (max : UInt32) :
    result = .error (.limit max) ↔ max = limits.maxRollTimes ∧ ws.length ≤ 2 ∧
      ∃ left right, SplitsInto t left right ∧ ∀ n, ¬limits.IsCount left n := by
  constructor
  · rintro rfl
    cases h with
    | limit hlength ht hcount => exact ⟨rfl, hlength, _, _, ht, hcount⟩
  · rintro ⟨rfl, hle, left, right, hsplit, hnone⟩
    have hone := hsplit.count
    cases h with
    | tooManyTokens hlength => omega
    | tooManySeparators hlength ht => omega
    | limit hlength ht hcount => rfl
    | once hlength ht hnames =>
      rw [List.count_eq_zero.mpr ht] at hone
      cases hone
    | @repeated left' right' written n hlength ht hcount hnames =>
      rw [← ht.parts.1, hsplit.parts.1] at hcount
      exact absurd hcount (hnone n)

/-- There is a plan exactly where nothing of this applies. -/
theorem ok_iff (h : Splitting limits ws t result) :
    (∃ plan, result = .ok plan) ↔ ws.length ≤ 2 ∧
      ('#' ∉ t ∨ ∃ left right n, SplitsInto t left right ∧ limits.IsCount left n) := by
  constructor
  · rintro ⟨plan, rfl⟩
    cases h with
    | once hlength ht hnames => exact ⟨hlength, Or.inl ht⟩
    | repeated hlength ht hcount hnames => exact ⟨hlength, Or.inr ⟨_, _, _, ht, hcount⟩⟩
  · rintro ⟨hle, hplan⟩
    have hfew : t.count '#' ≤ 1 := by
      rcases hplan with hmem | ⟨left, right, n, hsplit, -⟩
      · rw [List.count_eq_zero.mpr hmem]
        exact Nat.zero_le 1
      · exact Nat.le_of_eq hsplit.count
    cases h with
    | tooManyTokens hlength => omega
    | tooManySeparators hlength ht => omega
    | limit hlength ht hcount =>
      rcases hplan with hmem | ⟨left, right, n, hsplit, hn⟩
      · have hone := ht.count
        rw [List.count_eq_zero.mpr hmem] at hone
        cases hone
      · rw [← hsplit.parts.1, ht.parts.1] at hn
        exact absurd hn (hcount n)
    | once hlength ht hnames => exact ⟨_, rfl⟩
    | repeated hlength ht hcount hnames => exact ⟨_, rfl⟩

/-- What the first word of a payload with a plan says. -/
theorem plan_eq {plan : RollPlan} (h : Splitting limits ws t (.ok plan)) :
    plan.reason = ws[1]? ∧ (('#' ∉ t ∧ plan.repeatCount = 1 ∧ Names t plan.written) ∨
      ∃ left right, SplitsInto t left right ∧ limits.IsCount left plan.repeatCount ∧
        Names right plan.written) := by
  cases h with
  | once hlength ht hnames => exact ⟨rfl, Or.inl ⟨ht, rfl, hnames⟩⟩
  | repeated hlength ht hcount hnames => exact ⟨rfl, Or.inr ⟨_, _, ht, hcount, hnames⟩⟩

/-- A plan keeps to the limits and names dice. -/
theorem plan_sound {plan : RollPlan} (h : Splitting limits ws t (.ok plan)) :
    (1 ≤ plan.repeatCount ∧ plan.repeatCount ≤ limits.maxRollTimes.toNat) ∧
      Text.isBlank plan.written = false ∧ '#' ∉ plan.written := by
  cases h with
  | once hlength ht hnames =>
    exact ⟨⟨Nat.le_refl 1, limits.one_le_maxRollTimes⟩, hnames.sound ht⟩
  | repeated hlength ht hcount hnames =>
    obtain ⟨-, -, -, -, -, hrange⟩ := hcount
    exact ⟨hrange, hnames.sound ht.2.2⟩

end Splitting

/-- For every payload, its words and its first word unescaped, or the letter d if there are none:
splitting reports too many words exactly if there are more than two; otherwise too many separators
exactly if the first word has two or more; otherwise the limit exactly if the first word has one and
what is left of it is no repeat count; and otherwise there is a plan. Every plan has a repeat count
within the limits, dice that are not blank and have no separator, as they were written and in lower
case, and the second word for its reason. -/
theorem ofPayload_splits (limits : RollLimits) (payload : Text) :
    ∃ ws t, (∀ ws', Text.HasWords payload ws' ↔ ws' = ws) ∧
      t = (ws.head?.map Text.unescape).getD ['d'] ∧
      (ofPayload limits payload = .error (.format .tooManyTokens) ↔ 2 < ws.length) ∧
      (ofPayload limits payload = .error (.format .tooManySeparators) ↔
        ws.length ≤ 2 ∧ 2 ≤ t.count '#') ∧
      (∀ max, ofPayload limits payload = .error (.limit max) ↔ max = limits.maxRollTimes ∧
        ws.length ≤ 2 ∧ ∃ left right, SplitsInto t left right ∧ ∀ n, ¬limits.IsCount left n) ∧
      ((∃ plan, ofPayload limits payload = .ok plan) ↔ ws.length ≤ 2 ∧
        ('#' ∉ t ∨ ∃ left right n, SplitsInto t left right ∧ limits.IsCount left n)) ∧
      ∀ plan, ofPayload limits payload = .ok plan →
        (1 ≤ plan.repeatCount ∧ plan.repeatCount ≤ limits.maxRollTimes.toNat) ∧
        (Text.isBlank plan.written = false ∧ '#' ∉ plan.written) ∧
        (Text.isBlank plan.dice = false ∧ '#' ∉ plan.dice) ∧
        plan.dice = Text.lower plan.written ∧
        (('#' ∉ t ∧ plan.repeatCount = 1 ∧ Names t plan.written) ∨
          ∃ left right, SplitsInto t left right ∧ limits.IsCount left plan.repeatCount ∧
            Names right plan.written) ∧
        plan.reason = ws[1]? ∧
        ∀ reason ∈ plan.reason, reason ≠ [] ∧ ∀ c ∈ reason, Text.isBlankChar c = false := by
  have hws := Text.hasWords_words payload
  have h := @splitting limits payload _ hws
  refine ⟨Text.words payload, _, ?_, rfl, h.tooManyTokens_iff, h.tooManySeparators_iff, h.limit_iff,
    h.ok_iff, ?_⟩
  · intro ws'
    rw [← Text.words_eq_iff, eq_comm]
  · intro plan hplan
    rw [hplan] at h
    obtain ⟨hreason, hnames⟩ := h.plan_eq
    obtain ⟨hrange, hblank, hseparator⟩ := h.plan_sound
    refine ⟨hrange, ⟨hblank, hseparator⟩, dice_sound plan hblank hseparator, rfl, hnames, hreason,
      ?_⟩
    intro reason hmem
    rw [hreason] at hmem
    exact hws.sound reason (List.mem_of_getElem? hmem)

end RollPlan

end DiceBot
