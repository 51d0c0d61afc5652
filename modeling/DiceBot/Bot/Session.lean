import DiceBot.Bot.Basic

/-!
# Sessions

A session is a sequence of things asked of one bot, whose evaluator remembers what went before.
-/

namespace DiceBot

/-- Something asked of the bot. -/
inductive Action where
  /-- To answer a chat line. -/
  | line (line : Text)
  /-- To answer a message. -/
  | message (message : Message)
  /-- To answer a request. -/
  | execute (request : RollRequest)
  /-- To answer the explicit command with these arguments, hidden also if asked for otherwise. -/
  | command (arguments : Text) (hidden : Bool)
  /-- To prepare the result of a request without delivering it. -/
  | prepare (request : RollRequest)
  deriving DecidableEq, Repr

/-- What comes of an action. -/
inductive Reaction where
  /-- An answer was given, or the message asked nothing of the bot. -/
  | answered (result : Except DeliveryError (Option Text)) (sent : List PrivateMessage)
  /-- A result was prepared. -/
  | prepared (result : Except RollError Rendered)

/-- An action by a player over a private channel. -/
structure Step where
  /-- What is asked. -/
  action : Action
  /-- Who asks. -/
  player : Player
  /-- The way private messages go. -/
  channel : PrivateChannel

namespace RollRequest

/-- A request that is hidden also if asked for otherwise. -/
def orHidden (hidden : Bool) (request : RollRequest) : RollRequest :=
  { request with hidden := request.hidden || hidden }

end RollRequest

namespace Bot

variable {σ : Type}

/-- Performs one step. -/
def perform (bot : Bot σ) (step : Step) (s : σ) : Calls σ Reaction :=
  match step.action with
  | .line line =>
    let a := bot.handleLine step.channel step.player line s
    ⟨.answered a.result a.sent, a.calls, a.state⟩
  | .message message =>
    let a := bot.handleMessage step.channel step.player message s
    ⟨.answered a.result a.sent, a.calls, a.state⟩
  | .execute request =>
    let a := bot.execute step.channel step.player request s
    ⟨.answered (a.result.map some) a.sent, a.calls, a.state⟩
  | .command arguments hidden =>
    let request := (RollRequest.ofArguments arguments).orHidden hidden
    let a := bot.execute step.channel step.player request s
    ⟨.answered (a.result.map some) a.sent, a.calls, a.state⟩
  | .prepare request =>
    let p := bot.prepare step.player request s
    ⟨.prepared p.result, p.calls, p.state⟩

/-- Performs steps one after another, each with the state that the one before has left. -/
def performAll (bot : Bot σ) : List Step → σ → List (Calls σ Reaction)
  | [], _ => []
  | step :: steps, s =>
    let first := bot.perform step s
    first :: performAll bot steps first.state

end Bot

end DiceBot
