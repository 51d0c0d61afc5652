import DiceBot.Dice.Budget
import DiceBot.Dice.Defaults
import DiceBot.Dice.Library
import DiceBot.Text.Case.Lower

/-!
# Evaluating dice notation

A text is evaluated in five steps: bare dice get their defaults, the dice budget is checked, the
text is read in lower case, the dice are rolled, and the value is computed. Each step but the first
may fail, and no die is rolled unless the text is within the budget and can be read.
-/

namespace DiceBot

/-- What every evaluation is told. -/
structure EvaluatorConfig where
  /-- The greatest number of dice that one expression may ask for. -/
  maxRollCount : UInt32
  /-- What a bare letter d stands for. -/
  defaults : DiceDefaults
  deriving DecidableEq, Repr

/-- At most a hundred dice, one die with a hundred sides by default. -/
def EvaluatorConfig.standard : EvaluatorConfig := ⟨100, .standard⟩

/-- The result of one evaluation. -/
structure Outcome where
  /-- The value of the expression. -/
  value : Int64
  /-- How the value came about. -/
  trace : Text
  deriving DecidableEq, Repr

/-- Why an expression has no outcome. -/
inductive EvalError where
  /-- The expression asks for too many dice. -/
  | tooManyDice (max : UInt32)
  /-- The expression cannot be read. -/
  | unreadable (expression explanation : Text)
  /-- Rolling did not come to an end. -/
  | rolling (fault : RollFault)
  /-- The roll has no value. -/
  | totalling (fault : TotalFault)
  /-- The evaluator failed for a reason of its own. -/
  | other (message : Text)
  deriving DecidableEq, Repr

/-- What the user is told. -/
def EvalError.message : EvalError → Text
  | tooManyDice max => "单次投掷数量不能超过 ".toList ++ Text.natural max.toNat ++ " 个。".toList
  | unreadable expression explanation =>
    "无法解析表达式 ".toList ++ expression ++ "：".toList ++ explanation
  | rolling fault => "投掷失败：".toList ++ fault.message
  | totalling fault => "计算失败：".toList ++ fault.message
  | other message => message

/-- What it takes to evaluate dice notation. -/
structure DiceBox where
  /-- Reads and computes. -/
  library : DiceLibrary
  /-- Gives the faces. -/
  roller : Roller
  /-- How many rounds a modifier may take that repeats until no die meets its condition. -/
  rounds : Nat

namespace DiceBox

/-- Rolls and computes an expression. -/
def evaluateArith (box : DiceBox) (e : Arith Dice) (log : List Request) :
    Except EvalError Outcome × List Request :=
  match box.library.roll box.roller box.rounds e log with
  | (.error fault, log') => (.error (.rolling fault), log')
  | (.ok rolled, log') =>
    match box.library.total rolled with
    | .error fault => (.error (.totalling fault), log')
    | .ok value => (.ok ⟨Int64.ofInt value, box.library.describe rolled⟩, log')

/-- Evaluates a text. -/
def evaluate (box : DiceBox) (config : EvaluatorConfig) (expression : Text) (log : List Request) :
    Except EvalError Outcome × List Request :=
  let expanded := config.defaults.expand expression
  if Budget.allows config.maxRollCount expanded then
    match box.library.read? (Text.lower expanded) with
    | some e => box.evaluateArith e log
    | none => (.error (.unreadable expression (box.library.explain (Text.lower expanded))), log)
  else (.error (.tooManyDice config.maxRollCount), log)

end DiceBox

end DiceBot
