import DiceBot.Proofs.Bot.Preparation

/-!
# Evaluators without a memory

If what an evaluator says of an expression does not depend on what it remembers, then neither does
any answer of the bot: a message is answered alike whatever was asked before.
-/

namespace DiceBot

variable {σ : Type}

namespace Evaluator

/-- Whether what an evaluator says of an expression does not depend on what it remembers. -/
def IsStateless (evaluator : Evaluator σ) : Prop :=
  ∀ config expression s s',
    (evaluator.evaluate config expression s).1 = (evaluator.evaluate config expression s').1

/-- Repeated calls say the same, whatever is remembered at first. -/
theorem IsStateless.times_result {evaluator : Evaluator σ} (h : evaluator.IsStateless)
    (config : EvaluatorConfig) (expression : Text) (n : Nat) (s s' : σ) :
    (evaluator.times config expression n s).result =
      (evaluator.times config expression n s').result := by
  induction n generalizing s s' with
  | zero => rfl
  | succ n ih =>
    have hcall := h config expression s s'
    rw [times, times]
    generalize evaluator.evaluate config expression s = call at hcall
    generalize evaluator.evaluate config expression s' = call' at hcall
    obtain ⟨result, t⟩ := call
    obtain ⟨result', t'⟩ := call'
    obtain rfl : result = result' := hcall
    cases result with
    | error e => rfl
    | ok outcome => exact congrArg (Except.map (outcome :: ·)) (ih t t')

end Evaluator

namespace Bot

variable {bot : Bot σ}

theorem prepare_result_of_isStateless (h : bot.evaluator.IsStateless) (player : Player)
    (request : RollRequest) (s s' : σ) :
    (bot.prepare player request s).result = (bot.prepare player request s').result := by
  simp only [prepare]
  cases RollPlan.ofPayload bot.settings.limits request.payload with
  | error e => rfl
  | ok plan =>
    have hrun := h.times_result bot.settings.evaluator plan.dice plan.repeatCount s s'
    simp only [Evaluator.evaluateAll, hrun]
    cases (bot.evaluator.times bot.settings.evaluator plan.dice plan.repeatCount s').result <;> rfl

theorem execute_of_isStateless (h : bot.evaluator.IsStateless) (channel : PrivateChannel)
    (player : Player) (request : RollRequest) (s s' : σ) :
    (bot.execute channel player request s).result =
        (bot.execute channel player request s').result ∧
      (bot.execute channel player request s).sent =
        (bot.execute channel player request s').sent := by
  simp only [execute, prepare_result_of_isStateless h player request s s']
  cases (bot.prepare player request s').result <;> exact ⟨rfl, rfl⟩

/-- A message is answered alike, whatever is remembered. -/
theorem handleMessage_of_isStateless (h : bot.evaluator.IsStateless) (channel : PrivateChannel)
    (player : Player) (m : Message) (s s' : σ) :
    (bot.handleMessage channel player m s).result =
        (bot.handleMessage channel player m s').result ∧
      (bot.handleMessage channel player m s).sent =
        (bot.handleMessage channel player m s').sent := by
  cases hr : m.recognize with
  | none =>
    rw [handleMessage_of_none hr, handleMessage_of_none hr]
    exact ⟨rfl, rfl⟩
  | some recognized =>
    cases hp : bot.passesOn recognized with
    | true =>
      rw [handleMessage_of_passesOn hr hp, handleMessage_of_passesOn hr hp]
      exact ⟨rfl, rfl⟩
    | false =>
      obtain ⟨hresult, hsent⟩ := execute_of_isStateless h channel player recognized.request s s'
      rw [handleMessage_of_recognize hr hp, handleMessage_of_recognize hr hp, hresult]
      exact ⟨rfl, hsent⟩

end Bot

end DiceBot
