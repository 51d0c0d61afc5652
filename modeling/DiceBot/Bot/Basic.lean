import DiceBot.Chat.Delivery
import DiceBot.Chat.Message
import DiceBot.Roll.Evaluator
import DiceBot.Settings.Basic

/-!
# The bot

A request is split, evaluated and rendered, and the result is delivered. What the user did wrong is
answered like a result, but never privately; only a private message that cannot be delivered is a
failure of the bot. Every answer tells which expressions were evaluated and which private messages
were delivered.
-/

namespace DiceBot

/-- Settings and the evaluator that resolves dice. -/
structure Bot (σ : Type) where
  /-- The settings that requests are answered under. -/
  settings : Settings
  /-- Resolves dice. -/
  evaluator : Evaluator σ

/-- What the bot answers. -/
structure Answer (σ α : Type) where
  /-- What is posted in the channel of the request, or why the private message was not delivered. -/
  result : Except DeliveryError α
  /-- The private messages that were delivered, in order. -/
  sent : List PrivateMessage
  /-- The expressions that were evaluated, in order. -/
  calls : List Text
  /-- What the evaluator remembers afterwards. -/
  state : σ

namespace Bot

variable {σ : Type}

/-- Who gets to see the result of a request. -/
def deliveryMode (request : RollRequest) : DeliveryMode :=
  if request.hidden then .privately else .everyone

/-- The name under which replies speak of a player. -/
def displayName (bot : Bot σ) (player : Player) : Text :=
  player.displayName bot.settings.nameOrder

/-- Splits, evaluates and renders a request without delivering the result. -/
def prepare (bot : Bot σ) (player : Player) (request : RollRequest) (s : σ) :
    Calls σ (Except RollError Rendered) :=
  match RollPlan.ofPayload bot.settings.limits request.payload with
  | .error e => ⟨.error e, [], s⟩
  | .ok plan =>
    let run := bot.evaluator.evaluateAll bot.settings.evaluator plan s
    match run.result with
    | .error e => ⟨.error (.evaluation e), run.calls, run.state⟩
    | .ok outcomes =>
      let text := Reply.render bot.settings.limits (bot.displayName player) plan outcomes
      ⟨.ok ⟨text, deliveryMode request⟩, run.calls, run.state⟩

/-- Answers a request. -/
def execute (bot : Bot σ) (channel : PrivateChannel) (player : Player) (request : RollRequest)
    (s : σ) : Answer σ Text :=
  let prepared := bot.prepare player request s
  match prepared.result with
  | .error e => ⟨e.reply, [], prepared.calls, prepared.state⟩
  | .ok rendered =>
    let delivered := rendered.deliver channel player.userId (bot.displayName player)
    ⟨delivered.result, delivered.sent, prepared.calls, prepared.state⟩

/-- Whether a recognized message is left to others: a bare die of a family that the evaluator does
not know. -/
def passesOn (bot : Bot σ) (recognized : Recognized) : Bool :=
  match recognized.rule with
  | .die family => !bot.evaluator.supports family
  | _ => false

/-- Answers a message, unless it asks nothing of the bot. -/
def handleMessage (bot : Bot σ) (channel : PrivateChannel) (player : Player) (message : Message)
    (s : σ) : Answer σ (Option Text) :=
  match message.recognize with
  | none => ⟨.ok none, [], [], s⟩
  | some recognized =>
    if bot.passesOn recognized then ⟨.ok none, [], [], s⟩
    else
      let answer := bot.execute channel player recognized.request s
      ⟨answer.result.map some, answer.sent, answer.calls, answer.state⟩

/-- The message of a chat line. -/
def message (bot : Bot σ) (line : Text) : Message :=
  .ofLine bot.settings.botName bot.settings.prefixes line

/-- Answers a chat line, unless it asks nothing of the bot. -/
def handleLine (bot : Bot σ) (channel : PrivateChannel) (player : Player) (line : Text) (s : σ) :
    Answer σ (Option Text) :=
  bot.handleMessage channel player (bot.message line) s

end Bot

end DiceBot
