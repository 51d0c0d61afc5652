import DiceBot.Roll.Plan

/-!
# Evaluators

An evaluator resolves dice expressions one after another and may remember what it has done, so its
state is passed along. A plan is evaluated as often as it says, strictly in order, up to the first
failure; the calls made are part of the result.
-/

namespace DiceBot

/-- Resolves dice expressions, with a memory of type `σ`. -/
structure Evaluator (σ : Type) where
  /-- Whether a message that begins with a bare die of this family is worth evaluating. -/
  supports : Char → Bool
  /-- Resolves one expression. -/
  evaluate : EvaluatorConfig → Text → σ → Except EvalError Outcome × σ

/-- The result of a number of calls of an evaluator. -/
structure Calls (σ α : Type) where
  /-- What came of the calls. -/
  result : α
  /-- The expressions that were evaluated, in order. -/
  calls : List Text
  /-- What the evaluator remembers afterwards. -/
  state : σ

namespace Evaluator

variable {σ : Type}

/-- Evaluates an expression a number of times, up to the first failure. -/
def times (evaluator : Evaluator σ) (config : EvaluatorConfig) (expression : Text) :
    Nat → σ → Calls σ (Except EvalError (List Outcome))
  | 0, s => ⟨.ok [], [], s⟩
  | n + 1, s =>
    match evaluator.evaluate config expression s with
    | (.error e, s') => ⟨.error e, [expression], s'⟩
    | (.ok outcome, s') =>
      let rest := times evaluator config expression n s'
      ⟨rest.result.map (outcome :: ·), expression :: rest.calls, rest.state⟩

/-- Where all evaluations come to outcomes, the first one does, and the others follow it. -/
theorem times_succ_eq_ok {evaluator : Evaluator σ} {config : EvaluatorConfig} {expression : Text}
    {n : Nat} {s : σ} {outcomes : List Outcome}
    (h : (evaluator.times config expression (n + 1) s).result = .ok outcomes) :
    ∃ first s' others, evaluator.evaluate config expression s = (.ok first, s') ∧
      (evaluator.times config expression n s').result = .ok others ∧ outcomes = first :: others ∧
      (evaluator.times config expression (n + 1) s).state =
        (evaluator.times config expression n s').state := by
  rw [times] at h ⊢
  split at h
  · cases h
  · next first s' hfirst =>
    cases hrest : (evaluator.times config expression n s').result with
    | error e =>
      simp only [hrest] at h
      cases h
    | ok others =>
      simp only [hrest] at h
      obtain rfl := Except.ok.inj h
      exact ⟨first, s', others, hfirst, hrest, rfl, rfl⟩

/-- There are as many outcomes as evaluations. -/
theorem length_of_times_eq_ok {evaluator : Evaluator σ} {config : EvaluatorConfig}
    {expression : Text} {n : Nat} {s : σ} {outcomes : List Outcome}
    (h : (evaluator.times config expression n s).result = .ok outcomes) : outcomes.length = n := by
  induction n generalizing s outcomes with
  | zero =>
    obtain rfl := Except.ok.inj h
    rfl
  | succ n ih =>
    obtain ⟨first, s', others, -, hothers, rfl, -⟩ := times_succ_eq_ok h
    rw [List.length_cons, ih hothers]

/-- Evaluates the dice of a plan as often as it says. -/
def evaluateAll (evaluator : Evaluator σ) (config : EvaluatorConfig) (plan : RollPlan) (s : σ) :
    Calls σ (Except EvalError (List Outcome)) :=
  evaluator.times config plan.dice plan.repeatCount s

/-- The evaluator of dice notation, which knows bare dice of the family d only. It remembers the log
of the roller. -/
def dice (box : DiceBox) : Evaluator (List Request) where
  supports family := family == 'd'
  evaluate := box.evaluate

/-- The evaluator that answers from an endless script, whatever it is asked: call number `i`,
counted from zero over all calls, gets entry number `i`. It remembers the number of calls. -/
def ofScript (supports : Char → Bool) (entry : Nat → Except EvalError Outcome) : Evaluator Nat where
  supports := supports
  evaluate _ _ made := (entry made, made + 1)

/-- The evaluator that answers from a list of entries, of which the last serves all further
calls. -/
def scripted (supports : Char → Bool) (script : List (Except Text Outcome)) : Evaluator Nat :=
  ofScript supports fun i => ((script[i]?.or script.getLast?).getD (.error [])).mapError .other

end Evaluator

end DiceBot
