import DiceBot.Proofs.Text.Words
import DiceBot.Roll.Reply

/-!
# What a reply shows

Whatever the outcomes, a reply ends with an equals sign and their values. A trace may hold equals
signs, commas and digits of its own, but it stands before the last equals sign, so the values are
told from the reply in every layout. A trace is shown only if there is a single roll and the trace
is short enough, and no other reply depends on traces.
-/

namespace DiceBot

namespace Reply

/-- What is shown between the dice and the values: the trace of a single roll, if it is short. -/
def shownTrace (limits : RollLimits) (plan : RollPlan) : List Outcome → Text
  | [o] =>
    if plan.repeatCount = 1 ∧ o.trace.length ≤ limits.maxDetailsSize.toNat then
      " = ".toList ++ o.trace
    else []
  | _ => []

/-- A rendered text ends with the values of all outcomes, in order. -/
theorem render_eq_values (limits : RollLimits) (name : Text) (plan : RollPlan)
    (outcomes : List Outcome) :
    render limits name plan outcomes = attribution name plan.reason ++ plan.display ++
      shownTrace limits plan outcomes ++ " = ".toList ++
        Text.join ", ".toList (outcomes.map value) := by
  match outcomes with
  | [] => simp [render, repeated, shownTrace, equals]
  | [o] =>
    by_cases hone : plan.repeatCount = 1
    · by_cases hlong : limits.maxDetailsSize.toNat < o.trace.length
      · have hshown : ¬o.trace.length ≤ limits.maxDetailsSize.toNat := by omega
        simp [render, single, shownTrace, equals, hone, hlong, hshown, Text.join]
      · have hshown : o.trace.length ≤ limits.maxDetailsSize.toNat := by omega
        simp [render, single, shownTrace, equals, hone, hlong, hshown, Text.join]
    · simp [render, repeated, shownTrace, equals, hone]
  | o :: p :: os => simp [render, repeated, shownTrace, equals]

/-- The numerals of values. -/
def numerals (values : List Int64) : List Text := values.map fun v => Text.integer v.toInt

theorem map_value (outcomes : List Outcome) :
    outcomes.map value = numerals (outcomes.map Outcome.value) := by
  rw [numerals, List.map_map]
  rfl

/-- A numeral is not empty and holds neither equals sign nor comma nor space. -/
theorem numerals_plain {values : List Int64} {t : Text} (ht : t ∈ numerals values) :
    t ≠ [] ∧ '=' ∉ t ∧ ',' ∉ t := by
  obtain ⟨v, -, rfl⟩ := List.mem_map.mp ht
  have hnot : ∀ c : Char, c ≠ '-' → c.isDigit = false → c ∉ Text.integer v.toInt := by
    intro c hminus hdigit hc
    rcases Text.mem_integer hc with h | h
    · exact hminus h
    · exact Bool.false_ne_true (hdigit.symm.trans h)
  exact ⟨Text.integer_ne_nil _, hnot '=' (by decide) (by decide), hnot ',' (by decide) (by decide)⟩

theorem numerals_injective {vs ws : List Int64} (h : numerals vs = numerals ws) : vs = ws := by
  refine (List.map_inj_right ?_).mp h
  intro v w hvw
  exact Int64.toInt_inj.mp (Text.integer_injective hvw)

/-- Values that are shown alike are the same. -/
theorem join_numerals_injective {vs ws : List Int64}
    (h : Text.join ", ".toList (numerals vs) = Text.join ", ".toList (numerals ws)) : vs = ws := by
  have hplain : ∀ values : List Int64, ∀ t ∈ numerals values, t ≠ [] ∧ ',' ∉ t :=
    fun values t ht => ⟨(numerals_plain ht).1, (numerals_plain ht).2.2⟩
  exact numerals_injective (Text.join_injective (hplain vs) (hplain ws) h)

/-- No equals sign stands among values that are shown. -/
theorem equals_not_mem_join_numerals (values : List Int64) :
    '=' ∉ Text.join ", ".toList (numerals values) := by
  intro hmem
  rcases Text.mem_join hmem with hseparator | ⟨t, ht, hmem⟩
  · exact absurd hseparator (by decide)
  · exact (numerals_plain ht).2.1 hmem

/-- Outcomes that are rendered alike have the same values. Only what stands behind the last equals
sign is compared, so nothing in a trace can be taken for a value. -/
theorem values_of_render_eq {limits : RollLimits} {name : Text} {plan : RollPlan}
    {outcomes outcomes' : List Outcome}
    (h : render limits name plan outcomes = render limits name plan outcomes') :
    outcomes.map Outcome.value = outcomes'.map Outcome.value := by
  have hlast : ∀ values : List Int64, '=' ∉ ' ' :: Text.join ", ".toList (numerals values) := by
    intro values hmem
    rcases List.mem_cons.mp hmem with hspace | hmem
    · exact absurd hspace (by decide)
    · exact equals_not_mem_join_numerals values hmem
  have hsplit : ∀ lead values : Text, lead ++ " = ".toList ++ values =
      (lead ++ [' ']) ++ '=' :: ' ' :: values := fun lead values => by simp
  rw [render_eq_values, render_eq_values, map_value, map_value, hsplit, hsplit] at h
  obtain ⟨-, hvalues⟩ := Text.append_cons_inj_of_not_mem (hlast _) (hlast _) h
  exact join_numerals_injective (List.cons.inj hvalues).2

variable {plan : RollPlan}

theorem shownTrace_eq_nil {limits : RollLimits} {outcomes : List Outcome}
    (h : plan.repeatCount ≠ 1 ∨ outcomes.length ≠ 1) : shownTrace limits plan outcomes = [] := by
  match outcomes with
  | [] => rfl
  | [o] =>
    have hone : plan.repeatCount ≠ 1 := h.resolve_right fun hlength => hlength rfl
    simp [shownTrace, hone]
  | _ :: _ :: _ => rfl

/-- The trace of a single roll is shown, with an equals sign before it, or nothing is. -/
theorem shownTrace_single (limits : RollLimits) (hone : plan.repeatCount = 1) (v : Int64)
    (trace : Text) : (trace.length ≤ limits.maxDetailsSize.toNat ↔
        shownTrace limits plan [⟨v, trace⟩] = " = ".toList ++ trace) ∧
      (limits.maxDetailsSize.toNat < trace.length ↔ shownTrace limits plan [⟨v, trace⟩] = []) := by
  by_cases hshort : trace.length ≤ limits.maxDetailsSize.toNat
  · have hnot : ¬limits.maxDetailsSize.toNat < trace.length := by omega
    simp [shownTrace, hone, hshort, hnot]
  · have hlong : limits.maxDetailsSize.toNat < trace.length := by omega
    simp [shownTrace, hone, hshort, hlong]

/-- For every plan, name and limits, outcomes that are rendered alike have the same values in the
same order. Unless the plan is a single roll with one outcome, the text is made up of the line that
says who rolls, the dice and the values, so that traces do not matter. A single roll shows its trace
between dice and value exactly if the trace is not longer than the limit, and with any longer trace
it shows the dice and the value alone. -/
theorem render_shows_values_and_short_traces (limits : RollLimits) (name : Text)
    (plan : RollPlan) :
    let start := attribution name plan.reason ++ plan.display
    (∀ outcomes outcomes',
      render limits name plan outcomes = render limits name plan outcomes' →
        outcomes.map Outcome.value = outcomes'.map Outcome.value) ∧
    (∀ outcomes, plan.repeatCount ≠ 1 ∨ outcomes.length ≠ 1 →
      render limits name plan outcomes = start ++ " = ".toList ++
        Text.join ", ".toList (numerals (outcomes.map Outcome.value))) ∧
    (∀ outcomes outcomes', plan.repeatCount ≠ 1 ∨ outcomes.length ≠ 1 →
      outcomes.map Outcome.value = outcomes'.map Outcome.value →
        render limits name plan outcomes = render limits name plan outcomes') ∧
    (plan.repeatCount = 1 → ∀ v trace,
      (trace.length ≤ limits.maxDetailsSize.toNat ↔ render limits name plan [⟨v, trace⟩] =
        start ++ " = ".toList ++ trace ++ " = ".toList ++ Text.integer v.toInt) ∧
      (limits.maxDetailsSize.toNat < trace.length ↔ render limits name plan [⟨v, trace⟩] =
        start ++ " = ".toList ++ Text.integer v.toInt)) := by
  intro start
  have hvalues : ∀ outcomes, plan.repeatCount ≠ 1 ∨ outcomes.length ≠ 1 →
      render limits name plan outcomes = start ++ " = ".toList ++
        Text.join ", ".toList (numerals (outcomes.map Outcome.value)) := by
    intro outcomes h
    rw [render_eq_values, shownTrace_eq_nil h, List.append_nil, map_value]
  refine ⟨fun outcomes outcomes' => values_of_render_eq, hvalues, ?_, ?_⟩
  · intro outcomes outcomes' h hsame
    have hlength : outcomes.length = outcomes'.length := by
      simpa using congrArg List.length hsame
    rw [hvalues outcomes h, hvalues outcomes' (by rwa [← hlength]), hsame]
  · intro hone v trace
    obtain ⟨hshort, hlong⟩ := shownTrace_single limits hone v trace
    have hrender : ∀ shown, shownTrace limits plan [⟨v, trace⟩] = shown ↔
        render limits name plan [⟨v, trace⟩] =
          start ++ shown ++ " = ".toList ++ Text.integer v.toInt := by
      intro shown
      have hjoin : Text.join ", ".toList ([⟨v, trace⟩].map value) = Text.integer v.toInt := by
        simp [Text.join, value]
      rw [render_eq_values, hjoin, List.append_cancel_right_eq, List.append_cancel_right_eq,
        List.append_cancel_left_eq]
    rw [hshort, hlong, hrender, hrender, List.append_nil, ← List.append_assoc]
    exact ⟨Iff.rfl, Iff.rfl⟩

/-- With the limit five: a trace of five characters that looks like a value, two traces of six, and
two rolls. -/
theorem render_shows_values_and_short_traces_five :
    let limits : RollLimits := ⟨10, 5, by decide⟩
    let once : RollPlan := ⟨1, "2d6".toList, none⟩
    let twice : RollPlan := ⟨2, "2d6".toList, some "潜行".toList⟩
    let shown := render limits "ann".toList
    let long : List Outcome := [⟨7, "(1+6)*".toList⟩]
    let long' : List Outcome := [⟨7, " = 1, ".toList⟩]
    let rolled : List Outcome := [⟨-7, "(-7)".toList⟩, ⟨12, []⟩]
    let rolled' : List Outcome := [⟨-7, []⟩, ⟨12, "6, 6".toList⟩]
    (once.repeatCount = 1 ∧ "1 = 7".toList.length = 5 ∧
        shown once [⟨7, "1 = 7".toList⟩] = "ann 投掷:\n2d6 = 1 = 7 = 7".toList) ∧
      (shown once long = "ann 投掷:\n2d6 = 7".toList ∧ shown once long = shown once long' ∧
        long.map Outcome.value = long'.map Outcome.value) ∧
      (twice.repeatCount ≠ 1 ∧ rolled.map Outcome.value = rolled'.map Outcome.value ∧
        shown twice rolled = "ann 因为 潜行 投掷:\n2#2d6 = -7, 12".toList ∧
        shown twice rolled = shown twice rolled') := by
  intro limits once twice shown long long' rolled rolled'
  obtain ⟨hvalues, -, -, hsingle⟩ :=
    render_shows_values_and_short_traces limits "ann".toList once
  obtain ⟨-, hrepeated, htraces, -⟩ :=
    render_shows_values_and_short_traces limits "ann".toList twice
  have hlong := (hsingle rfl 7 "(1+6)*".toList).2.mp (by decide)
  have hlong' := (hsingle rfl 7 " = 1, ".toList).2.mp (by decide)
  have hsame := hlong.trans hlong'.symm
  exact ⟨⟨rfl, rfl, (hsingle rfl 7 "1 = 7".toList).1.mp (by decide)⟩,
    ⟨hlong, hsame, hvalues _ _ hsame⟩,
    by decide, rfl, (hrepeated rolled (Or.inl (by decide))).trans (by decide),
    htraces rolled rolled' (Or.inl (by decide)) rfl⟩

end Reply

end DiceBot
