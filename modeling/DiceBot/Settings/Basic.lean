import DiceBot.Chat.Player
import DiceBot.Dice.Evaluation
import DiceBot.Roll.Limits

/-!
# Settings

The settings that every request is answered under, and the configuration they come from, in which
everything may be left out. A configuration is turned down if no roll could ever be made under it;
otherwise each setting is the one given, or the standard one where none is given.
-/

namespace DiceBot

/-- The settings that requests are answered under. -/
structure Settings where
  /-- The limits of a request. -/
  limits : RollLimits
  /-- The order in which the sources of names are tried. -/
  nameOrder : List NameSource
  /-- The prefixes that mark a line as a command. -/
  prefixes : List Text
  /-- The name by which the bot is mentioned. -/
  botName : Text
  /-- What the evaluator is told. -/
  evaluator : EvaluatorConfig
  deriving DecidableEq, Repr

namespace Settings

/-- The name of the bot unless configured otherwise. -/
def standardBotName : Text := "dicer".toList

/-- The command prefixes unless configured otherwise. -/
def standardPrefixes : List Text := [['.'], ['。']]

/-- The settings without any configuration. -/
def standard : Settings :=
  ⟨.standard, NameSource.standardOrder, standardPrefixes, standardBotName, .standard⟩

end Settings

/-- The configured limits and names. -/
structure RollSection where
  maxRollTimes : Option UInt32
  maxDetailsSize : Option UInt64
  nameOrder : Option (List NameSource)
  deriving DecidableEq, Repr

/-- The configured ways of addressing the bot. -/
structure ChatSection where
  prefixes : Option (List Text)
  botName : Option Text
  deriving DecidableEq, Repr

/-- A configuration as it is written. -/
structure Configuration where
  roll : Option RollSection
  chat : Option ChatSection
  evaluator : Option EvaluatorConfig
  deriving DecidableEq, Repr

/-- Why a configuration is turned down. -/
inductive InvalidConfiguration where
  /-- The limits allow no roll. -/
  | limits (error : LimitsError)
  /-- There is no source of names. -/
  | noNameSource
  /-- A bare letter d stands for no dice or for dice without sides. -/
  | noDefaultDice
  deriving DecidableEq, Repr

/-- What the operator is told. -/
def InvalidConfiguration.message : InvalidConfiguration → String
  | limits e => "invalid config: " ++ e.message
  | noNameSource => "invalid config: display_name_order must list at least one source"
  | noDefaultDice =>
    "invalid config: evaluator.d.count and evaluator.d.faces must be at least 1"

namespace Configuration

/-- The configuration in which nothing is given. -/
def empty : Configuration := ⟨none, none, none⟩

/-- The limits that are given, completed by the standard ones. -/
def limits (c : Configuration) : Except LimitsError RollLimits :=
  RollLimits.check
    ((c.roll.bind RollSection.maxRollTimes).getD RollLimits.standard.maxRollTimes)
    ((c.roll.bind RollSection.maxDetailsSize).getD RollLimits.standard.maxDetailsSize)

/-- The order of name sources. -/
def nameOrder (c : Configuration) : List NameSource :=
  (c.roll.bind RollSection.nameOrder).getD NameSource.standardOrder

/-- The command prefixes; an empty one is dropped. -/
def prefixes (c : Configuration) : List Text :=
  ((c.chat.bind ChatSection.prefixes).getD Settings.standardPrefixes).filter (!·.isEmpty)

/-- The name of the bot; a blank one is disregarded. -/
def botName (c : Configuration) : Text :=
  ((c.chat.bind ChatSection.botName).filter (!Text.isBlank ·)).getD Settings.standardBotName

/-- What the evaluator is told. -/
def evaluatorConfig (c : Configuration) : EvaluatorConfig := c.evaluator.getD .standard

/-- The settings of a configuration. -/
def settings (c : Configuration) : Except InvalidConfiguration Settings :=
  match c.limits with
  | .error e => .error (.limits e)
  | .ok limits =>
    if c.nameOrder.isEmpty then .error .noNameSource
    else if c.evaluatorConfig.defaults.count = 0 ∨ c.evaluatorConfig.defaults.faces = 0 then
      .error .noDefaultDice
    else .ok ⟨limits, c.nameOrder, c.prefixes, c.botName, c.evaluatorConfig⟩

end Configuration

end DiceBot
