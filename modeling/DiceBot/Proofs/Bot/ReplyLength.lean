import Mathlib.Algebra.Order.BigOperators.Group.List
import Mathlib.Algebra.Order.Ring.Nat
import DiceBot.Proofs.Bot.Preparation
import DiceBot.Proofs.Roll.Rendering

/-!
# How long a reply can be

Behind the line that says who rolls and the dice, a reply has room for the values of the rolls, of
which none has more than twenty characters, and a single roll for a trace within the limit. The
evaluator cannot make it any longer, whatever values and traces it gives, and some evaluator makes
it just as long.
-/

namespace DiceBot

namespace Reply

/-- The greatest length of a value. -/
def valueRoom : Nat := 20

theorem length_value_le (o : Outcome) : (value o).length ≤ valueRoom := by
  have hlow := o.value.le_toInt
  have hhigh := o.value.toInt_lt
  exact Text.length_integer_le (k := 19) (by decide) (by omega)

/-- What a reply has room for behind the dice and the first equals sign, for a number of rolls: the
trace of a single roll, an equals sign and the value, or the values of repeated rolls and what
stands between them. -/
def room (limits : RollLimits) (times : Nat) : Nat :=
  if times = 1 then limits.maxDetailsSize.toNat + 3 + valueRoom
  else valueRoom * times + 2 * (times - 1)

/-- The length of what stands before the room: the line that says who rolls, the dice and an equals
sign. -/
def leadLength (name : Text) (plan : RollPlan) : Nat :=
  (attribution name plan.reason).length + plan.display.length + 3

variable {limits : RollLimits} {name : Text} {plan : RollPlan} {outcomes : List Outcome}

/-- The length of a reply, part by part. -/
theorem length_render (limits : RollLimits) (name : Text) (plan : RollPlan)
    (outcomes : List Outcome) :
    (render limits name plan outcomes).length =
      leadLength name plan + (shownTrace limits plan outcomes).length +
        ((outcomes.map fun o => (value o).length).sum + 2 * (outcomes.length - 1)) := by
  have hvalues : (Text.join ", ".toList (outcomes.map value)).length =
      (outcomes.map fun o => (value o).length).sum + 2 * (outcomes.length - 1) := by
    rw [Text.length_join, List.map_map, List.length_map]
    rfl
  have hequals : " = ".toList.length = 3 := rfl
  simp only [render_eq_values, List.length_append, hvalues, hequals, leadLength]
  omega

/-- The trace of a single roll has room, and no other is shown. -/
theorem length_shownTrace_le (limits : RollLimits) (plan : RollPlan) (outcomes : List Outcome) :
    (shownTrace limits plan outcomes).length ≤
      if plan.repeatCount = 1 then limits.maxDetailsSize.toNat + 3 else 0 := by
  by_cases hone : plan.repeatCount = 1
  · rw [if_pos hone]
    unfold shownTrace
    split
    · split
      · next hshort =>
        rw [List.length_append, Nat.add_comm]
        exact Nat.add_le_add_right hshort.2 3
      · exact Nat.zero_le _
    · exact Nat.zero_le _
  · rw [if_neg hone, shownTrace_eq_nil (Or.inl hone)]
    exact Nat.le_refl 0

theorem sum_length_values_le (outcomes : List Outcome) :
    (outcomes.map fun o => (value o).length).sum ≤ valueRoom * outcomes.length := by
  have hsum := List.sum_le_card_nsmul (outcomes.map fun o => (value o).length) valueRoom
    fun n hn => by
      obtain ⟨o, -, rfl⟩ := List.mem_map.mp hn
      exact length_value_le o
  rwa [List.length_map, Nat.nsmul_eq_mul, Nat.mul_comm] at hsum

/-- The outcomes of a plan have room. -/
theorem length_render_le (h : outcomes.length = plan.repeatCount) :
    (render limits name plan outcomes).length ≤
      leadLength name plan + room limits plan.repeatCount := by
  have htrace := length_shownTrace_le limits plan outcomes
  have hvalues := sum_length_values_le outcomes
  rw [length_render, room]
  rw [h] at hvalues ⊢
  split at htrace
  · next hone =>
    rw [if_pos hone]
    rw [hone] at hvalues ⊢
    omega
  · next hmany =>
    rw [if_neg hmany]
    omega

/-- An outcome for which a reply has just enough room. -/
def longestOutcome (limits : RollLimits) : Outcome :=
  ⟨Int64.minValue, List.replicate limits.maxDetailsSize.toNat '*'⟩

theorem length_value_longestOutcome (limits : RollLimits) :
    (value (longestOutcome limits)).length = valueRoom := by
  have hmin : Text.integer Int64.minValue.toInt = "-9223372036854775808".toList := by decide +kernel
  rw [value, longestOutcome, hmin]
  rfl

theorem length_render_longestOutcome :
    (render limits name plan (List.replicate plan.repeatCount (longestOutcome limits))).length =
      leadLength name plan + room limits plan.repeatCount := by
  have hvalues : ((List.replicate plan.repeatCount (longestOutcome limits)).map
      fun o => (value o).length).sum = valueRoom * plan.repeatCount := by
    rw [List.map_replicate, List.sum_replicate, length_value_longestOutcome, Nat.nsmul_eq_mul,
      Nat.mul_comm]
  rw [length_render, hvalues, List.length_replicate, room]
  by_cases hone : plan.repeatCount = 1
  · have htrace : (shownTrace limits plan [longestOutcome limits]).length =
        limits.maxDetailsSize.toNat + 3 := by
      simp [shownTrace, longestOutcome, hone]
    rw [if_pos hone, hone, List.replicate_one, htrace]
    omega
  · rw [if_neg hone, shownTrace_eq_nil (Or.inl hone)]
    rfl

end Reply

namespace Evaluator

/-- The evaluator that always gives the same outcome. -/
def always (o : Outcome) : Evaluator Unit where
  supports _ := true
  evaluate _ _ _ := (.ok o, ())

theorem times_always (o : Outcome) (config : EvaluatorConfig) (t : Text) (n : Nat) :
    (always o).times config t n () = ⟨.ok (List.replicate n o), List.replicate n t, ()⟩ := by
  induction n with
  | zero => rfl
  | succ n ih =>
    simp only [times, always] at ih ⊢
    rw [ih]
    rfl

end Evaluator

namespace Bot

variable {σ : Type}

theorem prepare_always (settings : Settings) (player : Player) {request : RollRequest}
    {plan : RollPlan} (hplan : RollPlan.ofPayload settings.limits request.payload = .ok plan)
    (o : Outcome) :
    (prepare ⟨settings, .always o⟩ player request ()).result =
      .ok ⟨Reply.render settings.limits (player.displayName settings.nameOrder) plan
        (List.replicate plan.repeatCount o), deliveryMode request⟩ := by
  simp only [prepare, hplan, Evaluator.evaluateAll, Evaluator.times_always]
  rfl

/-- For every payload, whatever the settings, the player, and the values and traces that the
evaluator gives: what is prepared is no longer than the line that says who rolls, the dice and an
equals sign, and behind them, for a single roll, the longest trace that is shown with another equals
sign, and twenty characters for every value, with a comma and a space between two of them. So
nothing under these limits is longer than the greater one of a single roll with its trace and of
the most values that may be asked for. With some evaluator, what is prepared is just as long. -/
theorem prepare_length_le {bot : Bot σ} {player : Player} {request : RollRequest} {s : σ}
    {rendered : Rendered} (h : (bot.prepare player request s).result = .ok rendered) :
    ∃ plan, RollPlan.ofPayload bot.settings.limits request.payload = .ok plan ∧
      1 ≤ plan.repeatCount ∧ plan.repeatCount ≤ bot.settings.limits.maxRollTimes.toNat ∧
      let lead := (Reply.attribution (bot.displayName player) plan.reason).length +
        plan.display.length + 3
      let details := bot.settings.limits.maxDetailsSize.toNat
      let n := plan.repeatCount
      rendered.text.length ≤
        lead + max (details + 3 + 20) (22 * bot.settings.limits.maxRollTimes.toNat - 2) ∧
      (n = 1 → rendered.text.length ≤ lead + details + 3 + 20) ∧
      (1 < n → rendered.text.length ≤ lead + 20 * n + 2 * (n - 1)) ∧
      ∃ (evaluator : Evaluator Unit) (longest : Rendered),
        (prepare ⟨bot.settings, evaluator⟩ player request ()).result = .ok longest ∧
          longest.text.length =
            lead + if n = 1 then details + 3 + 20 else 20 * n + 2 * (n - 1) := by
  have hp := bot.preparation player request s
  generalize bot.prepare player request s = prepared at hp h
  cases hp with
  | refused e hplan => cases h
  | failed plan e calls state hplan hrun => cases h
  | rendered plan outcomes calls state hplan hrun =>
    obtain rfl := Except.ok.inj h
    obtain ⟨hpos, hmax⟩ := RollPlan.repeatCount_range hplan
    have hoften : outcomes.length = plan.repeatCount :=
      Evaluator.length_of_times_eq_ok (congrArg Calls.result hrun)
    refine ⟨plan, hplan, hpos, hmax, ?_⟩
    intro lead details n
    dsimp only
    have hlength :
        (Reply.render bot.settings.limits (bot.displayName player) plan outcomes).length ≤
          lead + if n = 1 then details + 3 + 20 else 20 * n + 2 * (n - 1) :=
      Reply.length_render_le hoften
    refine ⟨?_, ?_, ?_, .always (Reply.longestOutcome bot.settings.limits), _,
      prepare_always bot.settings player hplan _, Reply.length_render_longestOutcome⟩
    · have hroom : (if n = 1 then details + 3 + 20 else 20 * n + 2 * (n - 1)) ≤
          max (details + 3 + 20) (22 * bot.settings.limits.maxRollTimes.toNat - 2) := by
        split <;> omega
      exact hlength.trans (Nat.add_le_add_left hroom lead)
    · intro hone
      rw [if_pos hone] at hlength
      omega
    · intro hmany
      rw [if_neg (by omega)] at hlength
      omega

/-- Three rolls of the least value take all the room there is where a trace has five characters. -/
theorem prepare_length_le_three_rolls :
    let bot : Bot Unit :=
      ⟨{ Settings.standard with limits := ⟨3, 5, by decide⟩ }, .always ⟨Int64.minValue, []⟩⟩
    let player : Player := ⟨"7".toList, "ann".toList, none, none⟩
    let request : RollRequest := ⟨"3#D6 潜行".toList, true⟩
    let text := "ann 因为 潜行 投掷:\n3#D6 = -9223372036854775808, ".toList ++
      "-9223372036854775808, -9223372036854775808".toList
    (bot.prepare player request ()).result = .ok ⟨text, .privately⟩ ∧
      text.length = 14 + 4 + 3 + (22 * 3 - 2) ∧
      ∃ plan, RollPlan.ofPayload bot.settings.limits request.payload = .ok plan ∧
        plan.repeatCount ≤ 3 ∧
        text.length ≤
          (Reply.attribution "ann".toList plan.reason).length + plan.display.length + 3 +
            max (5 + 3 + 20) (22 * 3 - 2) := by
  intro bot player request text
  have hprepare : (bot.prepare player request ()).result = .ok ⟨text, .privately⟩ := by
    decide +kernel
  obtain ⟨plan, hplan, -, hmax, hlength, -⟩ := prepare_length_le hprepare
  exact ⟨hprepare, by decide, plan, hplan, hmax, hlength⟩

end Bot

end DiceBot
