import DiceBot.Bot.Session
import DiceBot.Proofs.Roll.RepeatCount

/-!
# What a request comes to

Preparing a request ends in one of three ways: its payload has no plan, its dice fail, or a text is
rendered. A plan never repeats a roll more often than the limits allow, and a refusal is always a
matter of form, repeat count or dice, so it has a text for the channel. Whether the request is
hidden only decides who gets to see the rendered text.
-/

namespace DiceBot

variable {σ : Type}

/-- Every failure but that of a delivery is answered with its text. -/
theorem RollError.reply_of_ne_delivery {e : RollError} (h : ∀ d, e ≠ .delivery d) :
    e.reply = .ok e.message := by
  cases e with
  | format issue => rfl
  | limit max => rfl
  | evaluation e => rfl
  | delivery d => exact absurd rfl (h d)

namespace RollPlan

/-- What splitting may give: a plan whose repeat count is allowed, or a refusal of form or count. -/
def Sound (limits : RollLimits) : Except RollError RollPlan → Prop
  | .ok plan => 1 ≤ plan.repeatCount ∧ plan.repeatCount ≤ limits.maxRollTimes.toNat
  | .error e => (∃ issue, e = .format issue) ∨ e = .limit limits.maxRollTimes

private theorem sound_ofExpression (limits : RollLimits) (expression : Text)
    (reason : Option Text) : Sound limits (ofExpression limits expression reason) := by
  unfold ofExpression
  split
  · exact Or.inl ⟨_, rfl⟩
  · split
    · exact ⟨Nat.le_refl 1, limits.one_le_maxRollTimes⟩
    · simp only [readRepeatCount, RollLimits.checkRepeatCount]
      cases hc : limits.repeatCount? ((Binary64.ofText? (Text.trim
          (expression.takeWhile (· != separator)))).getD .nan) with
      | none => exact Or.inr rfl
      | some times => exact RollLimits.repeatCount?_range hc

/-- Splitting a payload keeps to the limits, whatever the payload. -/
theorem sound_ofPayload (limits : RollLimits) (payload : Text) :
    Sound limits (ofPayload limits payload) := by
  unfold ofPayload
  split
  · exact sound_ofExpression limits _ none
  · exact sound_ofExpression limits _ none
  · exact sound_ofExpression limits _ (some _)
  · exact Or.inl ⟨_, rfl⟩

/-- A plan rolls at least once and no more often than allowed. -/
theorem repeatCount_range {limits : RollLimits} {payload : Text} {plan : RollPlan}
    (h : ofPayload limits payload = .ok plan) :
    1 ≤ plan.repeatCount ∧ plan.repeatCount ≤ limits.maxRollTimes.toNat := by
  have hsound := sound_ofPayload limits payload
  rwa [h] at hsound

end RollPlan

namespace Bot

/-- The ways in which preparing a request ends. -/
inductive Preparation (bot : Bot σ) (player : Player) (request : RollRequest) (s : σ) :
    Calls σ (Except RollError Rendered) → Prop
  /-- The payload has no plan; nothing is evaluated. -/
  | refused (e : RollError)
      (hplan : RollPlan.ofPayload bot.settings.limits request.payload = .error e) :
      Preparation bot player request s ⟨.error e, [], s⟩
  /-- The dice of the plan fail. -/
  | failed (plan : RollPlan) (e : EvalError) (calls : List Text) (state : σ)
      (hplan : RollPlan.ofPayload bot.settings.limits request.payload = .ok plan)
      (hrun : bot.evaluator.evaluateAll bot.settings.evaluator plan s = ⟨.error e, calls, state⟩) :
      Preparation bot player request s ⟨.error (.evaluation e), calls, state⟩
  /-- The outcomes are rendered. -/
  | rendered (plan : RollPlan) (outcomes : List Outcome) (calls : List Text) (state : σ)
      (hplan : RollPlan.ofPayload bot.settings.limits request.payload = .ok plan)
      (hrun : bot.evaluator.evaluateAll bot.settings.evaluator plan s =
        ⟨.ok outcomes, calls, state⟩) :
      Preparation bot player request s
        ⟨.ok ⟨Reply.render bot.settings.limits (bot.displayName player) plan outcomes,
          deliveryMode request⟩, calls, state⟩

/-- Preparing ends in one of the three ways. -/
theorem preparation (bot : Bot σ) (player : Player) (request : RollRequest) (s : σ) :
    Preparation bot player request s (bot.prepare player request s) := by
  unfold prepare
  split
  · next e he => exact .refused e he
  · next plan hplan =>
    dsimp only
    split
    · next e he => exact .failed plan e _ _ hplan (by rw [← he])
    · next outcomes ho => exact .rendered plan outcomes _ _ hplan (by rw [← ho])

theorem Preparation.eq {bot : Bot σ} {player : Player} {request : RollRequest} {s : σ}
    {prepared : Calls σ (Except RollError Rendered)}
    (h : Preparation bot player request s prepared) : bot.prepare player request s = prepared := by
  cases h with
  | refused e hplan => simp only [prepare, hplan]
  | failed plan e calls state hplan hrun => simp only [prepare, hplan, hrun]
  | rendered plan outcomes calls state hplan hrun => simp only [prepare, hplan, hrun]

/-- A request is refused for its form, its repeat count or its dice. -/
theorem prepare_error {bot : Bot σ} {player : Player} {request : RollRequest} {s : σ}
    {e : RollError} (h : (bot.prepare player request s).result = .error e) :
    (∃ issue, e = .format issue) ∨ (∃ max, e = .limit max) ∨ ∃ fault, e = .evaluation fault := by
  have hp := bot.preparation player request s
  generalize bot.prepare player request s = prepared at hp h
  cases hp with
  | refused e' hplan =>
    have hs := RollPlan.sound_ofPayload bot.settings.limits request.payload
    rw [hplan] at hs
    obtain rfl : e' = e := Except.error.inj h
    rcases hs with hissue | hlimit
    · exact Or.inl hissue
    · exact Or.inr (Or.inl ⟨_, hlimit⟩)
  | failed plan fault calls state hplan hrun =>
    exact Or.inr (Or.inr ⟨fault, (Except.error.inj h).symm⟩)
  | rendered plan outcomes calls state hplan hrun => cases h

/-- A rendered text begins with the line that says who rolls and why. -/
theorem prepare_ok {bot : Bot σ} {player : Player} {request : RollRequest} {s : σ} {text : Text}
    {mode : DeliveryMode} (h : (bot.prepare player request s).result = .ok ⟨text, mode⟩) :
    ∃ plan rest, RollPlan.ofPayload bot.settings.limits request.payload = .ok plan ∧
      text = Reply.attribution (bot.displayName player) plan.reason ++ rest ∧
      mode = deliveryMode request := by
  have hp := bot.preparation player request s
  generalize bot.prepare player request s = prepared at hp h
  cases hp with
  | refused e hplan => cases h
  | failed plan e calls state hplan hrun => cases h
  | rendered plan outcomes calls state hplan hrun =>
    obtain ⟨rfl, rfl⟩ := Rendered.mk.inj (Except.ok.inj h)
    exact ⟨plan, _, hplan, List.append_assoc _ _ _, rfl⟩

theorem deliveryMode_eq_privately_iff {request : RollRequest} :
    deliveryMode request = .privately ↔ request.hidden = true := by
  cases hhidden : request.hidden <;> simp [deliveryMode, hhidden]

/-- A refused request is answered with the text of the refusal, and nothing is sent. -/
theorem execute_of_error {bot : Bot σ} {channel : PrivateChannel} {player : Player}
    {request : RollRequest} {s : σ} {e : RollError} {calls : List Text} {state : σ}
    (h : bot.prepare player request s = ⟨.error e, calls, state⟩) :
    bot.execute channel player request s = ⟨.ok e.message, [], calls, state⟩ := by
  have hne : ∀ d, e ≠ .delivery d := by
    intro d hd
    have he := prepare_error (congrArg Calls.result h)
    rcases he with ⟨_, he⟩ | ⟨_, he⟩ | ⟨_, he⟩ <;> cases hd.symm.trans he
  simp only [execute, h, RollError.reply_of_ne_delivery hne]

/-- A rendered text is delivered to whom it is meant for. -/
theorem execute_of_ok {bot : Bot σ} {channel : PrivateChannel} {player : Player}
    {request : RollRequest} {s : σ} {r : Rendered} {calls : List Text} {state : σ}
    (h : bot.prepare player request s = ⟨.ok r, calls, state⟩) :
    bot.execute channel player request s =
      ⟨(r.deliver channel player.userId (bot.displayName player)).result,
        (r.deliver channel player.userId (bot.displayName player)).sent, calls, state⟩ := by
  simp only [execute, h]

/-- A recognized message that is not passed on is answered as its request is. -/
theorem handleMessage_of_recognize {bot : Bot σ} {channel : PrivateChannel} {player : Player}
    {m : Message} {recognized : Recognized} {s : σ} (h : m.recognize = some recognized)
    (hp : bot.passesOn recognized = false) :
    bot.handleMessage channel player m s =
      ⟨(bot.execute channel player recognized.request s).result.map some,
        (bot.execute channel player recognized.request s).sent,
        (bot.execute channel player recognized.request s).calls,
        (bot.execute channel player recognized.request s).state⟩ := by
  simp only [handleMessage, h, hp, Bool.false_eq_true, if_false]

/-- A bare die of an unknown family is not answered. -/
theorem handleMessage_of_passesOn {bot : Bot σ} {channel : PrivateChannel} {player : Player}
    {m : Message} {recognized : Recognized} {s : σ} (h : m.recognize = some recognized)
    (hp : bot.passesOn recognized = true) :
    bot.handleMessage channel player m s = ⟨.ok none, [], [], s⟩ := by
  simp only [handleMessage, h, hp, if_true]

/-- A message that asks nothing of the bot is not answered. -/
theorem handleMessage_of_none {bot : Bot σ} {channel : PrivateChannel} {player : Player}
    {m : Message} {s : σ} (h : m.recognize = none) :
    bot.handleMessage channel player m s = ⟨.ok none, [], [], s⟩ := by
  simp only [handleMessage, h]

/-- Whether a message is left to others depends on the rule alone. -/
theorem passesOn_congr (bot : Bot σ) {r r' : Recognized} (h : r.rule = r'.rule) :
    bot.passesOn r = bot.passesOn r' := by
  rw [passesOn, passesOn, h]

/-- Only a bare die of a family that the evaluator does not know is left to others. -/
theorem passesOn_eq_true_iff {bot : Bot σ} {r : Recognized} :
    bot.passesOn r = true ↔ ∃ family, r.rule = .die family ∧
      bot.evaluator.supports family = false := by
  obtain ⟨rule, request⟩ := r
  cases rule <;> simp [passesOn]

/-- Messages that ask for the same are answered alike. -/
theorem handleMessage_of_recognize_eq (bot : Bot σ) (channel : PrivateChannel) (player : Player)
    {m m' : Message} (h : m.recognize = m'.recognize) (s : σ) :
    bot.handleMessage channel player m s = bot.handleMessage channel player m' s := by
  simp only [handleMessage, h]

/-- Messages that make the same request are answered alike, unless a bare die is left to others. -/
theorem handleMessage_of_request_eq {bot : Bot σ} (channel : PrivateChannel) (player : Player)
    {m m' : Message} {r r' : Recognized} (s : σ) (hm : m.recognize = some r)
    (hm' : m'.recognize = some r') (hrequest : r.request = r'.request)
    (hp : bot.passesOn r = false) (hp' : bot.passesOn r' = false) :
    bot.handleMessage channel player m s = bot.handleMessage channel player m' s := by
  rw [handleMessage_of_recognize hm hp, handleMessage_of_recognize hm' hp', hrequest]

end Bot

end DiceBot
