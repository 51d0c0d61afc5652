import DiceBot.Proofs.Roll.Splitting
import DiceBot.Proofs.Text.Unescaping

/-!
# Plans as they are shown

The dice of a plan as they are shown to the user, with the reason behind them, make up a payload
whose plan is the same, whatever notation the repeat count was written in. The first word of the
payload must hold no ampersand: what an entity stood for might otherwise be taken for an entity
again, or for a blank.
-/

namespace DiceBot

/-- A text without ampersands has no entities. -/
theorem Text.unescape_of_not_mem {t : Text} (h : '&' ∉ t) : unescape t = t := by
  simpa using unescape_append h []

/-- The numeral of an allowed repeat count is read as that count. -/
theorem RollLimits.isCount_natural {limits : RollLimits} {n : Nat} (hlow : 1 ≤ n)
    (hhigh : n ≤ limits.maxRollTimes.toNat) : limits.IsCount (Text.natural n) n := by
  have hnearest :=
    Binary64.isNearest_natural (Nat.one_le_iff_ne_zero.mp hlow) (lt_of_le_maxRollTimes hhigh)
  exact (isCount_iff (Decimal.denotes_natural n)).mpr ⟨hnearest, hlow, hhigh⟩

namespace RollPlan

/-- A text with a space and a reason behind it, if there is a reason. -/
def withReason (t : Text) : Option Text → Text
  | none => t
  | some reason => t ++ ' ' :: reason

/-- The dice of a plan as they are shown, with the reason behind them. -/
def echo (plan : RollPlan) : Text := withReason plan.display plan.reason

/-- Whether a text is one word without ampersands. -/
structure IsPlainWord (t : Text) : Prop where
  ne_nil : t ≠ []
  not_blank : ∀ c ∈ t, Text.isBlankChar c = false
  not_ampersand : '&' ∉ t

theorem isPlainWord_of_all {t : Text} (hne : t ≠ [])
    (h : (t.all fun c => !Text.isBlankChar c && c != '&') = true) : IsPlainWord t := by
  have hall : ∀ c ∈ t, Text.isBlankChar c = false ∧ c ≠ '&' := by simpa using h
  exact ⟨hne, fun c hc => (hall c hc).1, fun hc => (hall _ hc).2 rfl⟩

theorem isPlainWord_defaultDice : IsPlainWord ['d'] :=
  isPlainWord_of_all (List.cons_ne_nil _ _) (by decide)

/-- The first word of a payload, unescaped, is plain if it is so as it was sent. -/
theorem isPlainWord_first {payload : Text} {ws : List Text} (hws : Text.HasWords payload ws)
    (hfirst : ∀ word ∈ ws.head?, '&' ∉ word) :
    IsPlainWord ((ws.head?.map Text.unescape).getD ['d']) := by
  cases ws with
  | nil => exact isPlainWord_defaultDice
  | cons word ws =>
    obtain ⟨hne, hblank⟩ := hws.sound word List.mem_cons_self
    have hplain := hfirst word rfl
    rw [List.head?_cons, Option.map_some, Option.getD_some, Text.unescape_of_not_mem hplain]
    exact ⟨hne, hblank, hplain⟩

/-- Dice that a part of a plain word names are plain. -/
theorem Names.isPlainWord {t part written : Text} (h : Names part written) (ht : IsPlainWord t)
    (hpart : ∀ c ∈ part, c ∈ t) : IsPlainWord written := by
  rcases h with ⟨-, rfl⟩ | ⟨hblank, rfl⟩
  · exact isPlainWord_defaultDice
  · refine ⟨?_, fun c hc => ht.not_blank c (hpart c hc), fun hc => ht.not_ampersand (hpart _ hc)⟩
    rintro rfl
    cases hblank

/-- With plain dice a plan is shown as a plain word. -/
theorem isPlainWord_display {plan : RollPlan} (h : IsPlainWord plan.written) :
    IsPlainWord plan.display := by
  unfold display
  split
  · have hdigit : ∀ c ∈ Text.natural plan.repeatCount, c.isDigit = true :=
      fun c hc => Text.isDigit_of_mem_natural hc
    refine ⟨by simp, ?_, ?_⟩
    · intro c hc
      rcases List.mem_append.mp hc with hnumeral | hc
      · exact Text.isBlankChar_of_isDigit (hdigit c hnumeral)
      · rcases List.mem_cons.mp hc with rfl | hwritten
        · decide
        · exact h.not_blank c hwritten
    · intro hc
      rcases List.mem_append.mp hc with hnumeral | hc
      · exact absurd (hdigit '&' hnumeral) (by decide)
      · rcases List.mem_cons.mp hc with hseparator | hwritten
        · exact absurd hseparator (by decide)
        · exact h.not_ampersand hwritten
  · exact h

/-- A plain word and a reason behind it are split into these. -/
theorem ofPayload_withReason {limits : RollLimits} {t : Text} (ht : IsPlainWord t)
    {reason : Option Text}
    (hreason : ∀ r ∈ reason, r ≠ [] ∧ ∀ c ∈ r, Text.isBlankChar c = false) :
    ofPayload limits (withReason t reason) = ofExpression limits t reason := by
  have hspace : Text.isBlankChar ' ' = true := by decide
  cases reason with
  | none =>
    rw [withReason, ofPayload, Text.words_word ht.ne_nil ht.not_blank]
    simp [Text.unescape_of_not_mem ht.not_ampersand]
  | some r =>
    obtain ⟨hne, hblank⟩ := hreason r rfl
    have hnext : ∀ c ∈ (' ' :: r).head?, Text.isBlankChar c = true := by
      rintro c ⟨⟩
      exact hspace
    have hwords := Text.words_append ht.ne_nil ht.not_blank hnext
    rw [Text.words_cons_blank hspace, Text.words_word hne hblank] at hwords
    rw [withReason, ofPayload, hwords]
    simp [Text.unescape_of_not_mem ht.not_ampersand]

/-- What a plan is shown as has the same repeat count and dice. -/
theorem ofExpression_display {limits : RollLimits} {plan : RollPlan}
    (hrange : 1 ≤ plan.repeatCount ∧ plan.repeatCount ≤ limits.maxRollTimes.toNat)
    (hblank : Text.isBlank plan.written = false) (hseparator : '#' ∉ plan.written) :
    ofExpression limits plan.display plan.reason = .ok plan := by
  have hwritten : orIfBlank defaultDice plan.written = plan.written := by simp [orIfBlank, hblank]
  by_cases hmany : 1 < plan.repeatCount
  · have hdisplay : plan.display = Text.natural plan.repeatCount ++ '#' :: plan.written := by
      rw [display, if_pos hmany]
      rfl
    have hnumeral : '#' ∉ Text.natural plan.repeatCount :=
      fun hmem => absurd (Text.isDigit_of_mem_natural hmem) (by decide)
    have hsplits : SplitsInto plan.display (Text.natural plan.repeatCount) plan.written :=
      ⟨hdisplay, hnumeral, hseparator⟩
    have hcount := readRepeatCount_eq_ok_iff.mpr (RollLimits.isCount_natural hrange.1 hrange.2)
    rw [hsplits.ofExpression_eq, hcount, hwritten]
    rfl
  · have hone : plan.repeatCount = 1 := by omega
    rw [display, if_neg hmany, ofExpression_of_not_mem hseparator, hwritten, ← hone]

/-- A plan as it is shown, with the reason behind its dice, is a payload with the same plan, if the
first word of the payload that it came from holds no ampersand. -/
theorem ofPayload_echo {limits : RollLimits} {payload : Text} {plan : RollPlan}
    (hfirst : ∀ word ∈ (Text.words payload).head?, '&' ∉ word)
    (h : ofPayload limits payload = .ok plan) : ofPayload limits plan.echo = .ok plan := by
  have hws := Text.hasWords_words payload
  have hsplitting := @splitting limits payload _ hws
  rw [h] at hsplitting
  have hplain := isPlainWord_first hws hfirst
  obtain ⟨hreason, hnames⟩ := hsplitting.plan_eq
  obtain ⟨hrange, hblank, hseparator⟩ := hsplitting.plan_sound
  have hwritten : IsPlainWord plan.written := by
    rcases hnames with ⟨-, -, hnames⟩ | ⟨left, right, ⟨ht, -, -⟩, -, hnames⟩
    · exact hnames.isPlainWord hplain fun c hc => hc
    · refine hnames.isPlainWord hplain fun c hc => ?_
      rw [ht]
      exact List.mem_append_right _ (List.mem_cons_of_mem _ hc)
  have hword : ∀ r ∈ plan.reason, r ≠ [] ∧ ∀ c ∈ r, Text.isBlankChar c = false := by
    intro r hr
    rw [hreason] at hr
    exact hws.sound r (List.mem_of_getElem? hr)
  rw [echo, ofPayload_withReason (isPlainWord_display hwritten) hword]
  exact ofExpression_display hrange hblank hseparator

/-- Three rolls, the repeat count with a leading zero and an exponent. -/
theorem ofPayload_echo_three_rolls :
    let limits : RollLimits := ⟨4294967295, 500, by decide⟩
    let payload := "  +03e0#2D6xo 潜行 ".toList
    let plan : RollPlan := ⟨3, "2D6xo".toList, some "潜行".toList⟩
    (∀ word ∈ (Text.words payload).head?, '&' ∉ word) ∧ ofPayload limits payload = .ok plan ∧
      plan.echo = "3#2D6xo 潜行".toList ∧ ofPayload limits plan.echo = .ok plan := by
  intro limits payload plan
  have hfirst : ∀ word ∈ (Text.words payload).head?, '&' ∉ word := by decide +kernel
  have hplan : ofPayload limits payload = .ok plan := by decide +kernel
  have hecho : plan.echo = "3#2D6xo 潜行".toList := by decide +kernel
  exact ⟨hfirst, hplan, hecho, ofPayload_echo hfirst hplan⟩

end RollPlan

end DiceBot
