import DiceBot.Proofs.Number.Numeral
import DiceBot.Proofs.Roll.Echo
import DiceBot.Proofs.Text.LetterCase
import DiceBot.Roll.Evaluator

/-!
# The letter case of a payload

Payloads without ampersands that are the same up to the case of ASCII letters have plans that roll
the same. Numbers are read alike, for the letter of an exponent and the words for infinities and for
what is not a number may be written either way; and the evaluator gets its dice in lower case.
-/

namespace DiceBot

/-- Whether two results are the same failure, or successes that are related. -/
inductive Agree {ε α : Type} (R : α → α → Prop) : Except ε α → Except ε α → Prop
  | error (e : ε) : Agree R (.error e) (.error e)
  | ok {a b : α} (h : R a b) : Agree R (.ok a) (.ok b)

/-- Results that agree in a relation agree in any weaker one. -/
theorem Agree.imp {ε α : Type} {R S : α → α → Prop} {x y : Except ε α}
    (himp : ∀ a b, R a b → S a b) (h : Agree R x y) : Agree S x y := by
  cases h with
  | error e => exact .error e
  | ok h => exact .ok (himp _ _ h)

/-- Digits have no case, so a numeral is read alike in small letters. -/
theorem Text.natural?_foldCase (t : Text) : natural? (foldCase t) = natural? t := by
  have hall := all_foldCase isDigit_toLower t
  cases hdigits : t.all Char.isDigit with
  | true => rw [foldCase_of_all (by decide) (List.all_eq_true.mp hdigits)]
  | false =>
    rw [hdigits] at hall
    simp only [natural?, hall, hdigits, Bool.not_false, Bool.or_true, if_true]

namespace Decimal

open Text (foldCase)

/-- So is a sign. -/
theorem readSign_foldCase (t : Text) :
    readSign (foldCase t) = ((readSign t).1, foldCase (readSign t).2) := by
  cases t with
  | nil => rfl
  | cons c t =>
    by_cases hplus : c = '+'
    · rw [hplus]
      rfl
    by_cases hminus : c = '-'
    · rw [hminus]
      rfl
    have hhead : ∀ d ∈ (c :: t).head?, d ≠ '+' ∧ d ≠ '-' := by
      rintro d ⟨⟩
      exact ⟨hplus, hminus⟩
    have hfolded : ∀ d ∈ (foldCase (c :: t)).head?, d ≠ '+' ∧ d ≠ '-' := by
      refine (Text.forall_head?_foldCase fun d => ?_).mpr hhead
      exact and_congr (Text.toLower_ne_iff (by decide) d) (Text.toLower_ne_iff (by decide) d)
    have hread : readSign (c :: t) = (false, c :: t) := IsSign.absent.readSign_eq hhead
    have hread' : readSign (foldCase (c :: t)) = (false, foldCase (c :: t)) :=
      IsSign.absent.readSign_eq hfolded
    rw [hread, hread']

/-- The letter of an exponent may be small or capital. -/
theorem readExponent?_foldCase (t : Text) : readExponent? (foldCase t) = readExponent? t := by
  have hletter : ∀ c : Char, (c.toLower = 'e' ∨ c.toLower = 'E') ↔ (c = 'e' ∨ c = 'E') := by
    intro c
    exact decide_eq_decide.mp
      (Text.apply_toLower (f := fun c => decide (c = 'e' ∨ c = 'E')) (by decide) c)
  cases t with
  | nil => rfl
  | cons c t =>
    simp only [Text.foldCase_cons, readExponent?, hletter, readSign_foldCase,
      Text.natural?_foldCase]

/-- Digits have no case. -/
theorem foldCase_takeWhile_isDigit (t : Text) :
    foldCase (t.takeWhile Char.isDigit) = t.takeWhile Char.isDigit :=
  Text.foldCase_of_all (by decide) (List.all_eq_true.mp List.all_takeWhile)

/-- So is a fraction. -/
theorem readFraction_foldCase (t : Text) :
    readFraction (foldCase t) = ((readFraction t).1, foldCase (readFraction t).2) := by
  cases t with
  | nil => rfl
  | cons c t =>
    by_cases hpoint : c = '.'
    · rw [hpoint]
      have htake := Text.takeWhile_foldCase Text.isDigit_toLower t
      have hdrop := Text.dropWhile_foldCase Text.isDigit_toLower t
      rw [foldCase_takeWhile_isDigit] at htake
      exact Prod.ext htake hdrop
    · have hhead : ∀ d ∈ (c :: t).head?, d ≠ '.' := by
        rintro d ⟨⟩
        exact hpoint
      have hfolded : ∀ d ∈ (foldCase (c :: t)).head?, d ≠ '.' :=
        (Text.forall_head?_foldCase (Text.toLower_ne_iff (by decide))).mpr hhead
      rw [readFraction_of_head hfolded, readFraction_of_head hhead]

/-- The letter of an exponent is read in either case, so is a decimal as a whole. -/
theorem read?_foldCase (t : Text) : read? (foldCase t) = read? t := by
  simp only [read?, readSign_foldCase, Text.takeWhile_foldCase Text.isDigit_toLower,
    Text.dropWhile_foldCase Text.isDigit_toLower, foldCase_takeWhile_isDigit,
    readFraction_foldCase, readExponent?_foldCase]

end Decimal

/-- The names of numbers that are no decimals are read in either case, too. -/
theorem Binary64.ofText?_foldCase (t : Text) : ofText? (Text.foldCase t) = ofText? t := by
  have hword : ∀ u : Text, (Text.foldCase u).map Char.toLower = u.map Char.toLower :=
    Text.foldCase_foldCase
  simp only [ofText?, Decimal.read?_foldCase, Decimal.readSign_foldCase, hword]

namespace RollPlan

/-- A plan with small letters in place of the ASCII capitals in what the user wrote. -/
def foldCase (plan : RollPlan) : RollPlan :=
  { plan with written := Text.foldCase plan.written, reason := plan.reason.map Text.foldCase }

/-- The letter d in place of a blank part is a small one already. -/
theorem orIfBlank_foldCase (t : Text) :
    orIfBlank defaultDice (Text.foldCase t) = Text.foldCase (orIfBlank defaultDice t) := by
  rw [orIfBlank, orIfBlank, Text.isBlank_foldCase]
  cases Text.isBlank t <;> rfl

/-- A repeat count is read alike in small letters. -/
theorem readRepeatCount_foldCase (limits : RollLimits) (t : Text) :
    readRepeatCount limits (Text.foldCase t) = readRepeatCount limits t := by
  rw [readRepeatCount, Text.trim_foldCase, Binary64.ofText?_foldCase, readRepeatCount]

/-- Splitting a text in small letters comes to the plan in small letters. -/
theorem ofExpression_foldCase (limits : RollLimits) (t : Text) (reason : Option Text) :
    ofExpression limits (Text.foldCase t) (reason.map Text.foldCase) =
      (ofExpression limits t reason).map foldCase := by
  have hseparator : ∀ c : Char, (c.toLower != separator) = (c != separator) :=
    Text.apply_toLower (f := (· != separator)) (by decide)
  have hcount : (Text.foldCase t).count separator = t.count separator :=
    Text.count_foldCase (by decide) t
  rw [ofExpression, ofExpression, hcount, Text.dropWhile_foldCase hseparator,
    Text.takeWhile_foldCase hseparator, readRepeatCount_foldCase]
  by_cases hmany : 1 < t.count separator
  · rw [if_pos hmany, if_pos hmany]
    rfl
  rw [if_neg hmany, if_neg hmany]
  cases t.dropWhile (· != separator) with
  | nil => simp [Except.map, foldCase, orIfBlank_foldCase]
  | cons c dice =>
    cases readRepeatCount limits (t.takeWhile (· != separator)) with
    | error e => rfl
    | ok times => simp [Except.map, foldCase, orIfBlank_foldCase]

/-- Without ampersands the plan of a payload in small letters is the plan in small letters. -/
theorem ofPayload_foldCase (limits : RollLimits) {payload : Text} (h : '&' ∉ payload) :
    ofPayload limits (Text.foldCase payload) = (ofPayload limits payload).map foldCase := by
  have hplain : ∀ word ∈ Text.words payload, Text.unescape (Text.foldCase word) =
      Text.foldCase word ∧ Text.unescape word = word := by
    intro word hword
    have hnone : '&' ∉ word := fun hc => h (Text.mem_of_mem_words hword hc)
    exact ⟨Text.unescape_of_not_mem (mt (Text.mem_foldCase_iff (by decide)).mp hnone),
      Text.unescape_of_not_mem hnone⟩
  rw [ofPayload, ofPayload, Text.words_foldCase]
  cases hws : Text.words payload with
  | nil => exact ofExpression_foldCase limits (Text.unescape defaultDice) none
  | cons expression others =>
    rw [hws] at hplain
    obtain ⟨hfolded, hsame⟩ := hplain expression List.mem_cons_self
    cases others with
    | nil =>
      simp only [List.map_cons, List.map_nil, hfolded, hsame]
      exact ofExpression_foldCase limits expression none
    | cons reason others =>
      cases others with
      | nil =>
        simp only [List.map_cons, List.map_nil, hfolded, hsame]
        exact ofExpression_foldCase limits expression (some reason)
      | cons next others => rfl

/-- Whether two plans roll the same and differ at most in the case of what the user wrote. -/
structure RollsSame (plan plan' : RollPlan) : Prop where
  /-- The dice are rolled equally often. -/
  repeatCount : plan.repeatCount = plan'.repeatCount
  /-- The evaluator gets the same dice. -/
  dice : plan.dice = plan'.dice
  /-- The dice are written with the same letters. -/
  written : Text.SameLetters plan.written plan'.written
  /-- The reasons are written with the same letters. -/
  reason : Option.Rel Text.SameLetters plan.reason plan'.reason

/-- Plans that are the same in small letters roll the same. -/
theorem rollsSame_of_foldCase_eq {plan plan' : RollPlan} (h : plan.foldCase = plan'.foldCase) :
    plan.RollsSame plan' := by
  obtain ⟨count, written, reason⟩ := plan
  obtain ⟨count', written', reason'⟩ := plan'
  obtain ⟨hcount, hwritten, hreason⟩ := RollPlan.mk.inj h
  refine ⟨hcount, Text.SameLetters.apply_eq Text.lower_foldCase hwritten, hwritten, ?_⟩
  cases reason with
  | none =>
    cases reason' with
    | none => exact .none
    | some r' => cases hreason
  | some r =>
    cases reason' with
    | none => cases hreason
    | some r' => exact .some (Option.some.inj hreason)

/-- Payloads with the same letters are refused alike, or have plans that roll the same. -/
theorem ofPayload_agree (limits : RollLimits) {payload payload' : Text} (hplain : '&' ∉ payload)
    (h : Text.SameLetters payload payload') :
    Agree RollsSame (ofPayload limits payload) (ofPayload limits payload') := by
  have hplain' : '&' ∉ payload' := by
    rw [← Text.mem_foldCase_iff (by decide), ← h, Text.mem_foldCase_iff (by decide)]
    exact hplain
  have hfolded : (ofPayload limits payload).map foldCase =
      (ofPayload limits payload').map foldCase := by
    rw [← ofPayload_foldCase limits hplain, h, ofPayload_foldCase limits hplain']
  cases hp : ofPayload limits payload with
  | error e =>
    cases hp' : ofPayload limits payload' with
    | error e' =>
      rw [hp, hp'] at hfolded
      rw [Except.error.inj hfolded]
      exact .error e'
    | ok plan' =>
      rw [hp, hp'] at hfolded
      cases hfolded
  | ok plan =>
    cases hp' : ofPayload limits payload' with
    | error e' =>
      rw [hp, hp'] at hfolded
      cases hfolded
    | ok plan' =>
      rw [hp, hp'] at hfolded
      exact .ok (rollsSame_of_foldCase_eq (Except.ok.inj hfolded))

/-- Plans that roll the same are evaluated alike, whatever the evaluator. -/
theorem RollsSame.evaluateAll_eq {plan plan' : RollPlan} (h : plan.RollsSame plan') {σ : Type}
    (evaluator : Evaluator σ) (config : EvaluatorConfig) (s : σ) :
    evaluator.evaluateAll config plan s = evaluator.evaluateAll config plan' s := by
  rw [Evaluator.evaluateAll, Evaluator.evaluateAll, h.dice, h.repeatCount]

end RollPlan

end DiceBot
