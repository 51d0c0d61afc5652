import DiceBot.Console.Program
import DiceBot.Proofs.Bot.Preparation
import DiceBot.Proofs.Console.Input

/-!
# Replies on the console

A request has exactly one reply on the console: what went wrong with it, its result, or the private
message with its result and the stub. A chat line makes at most one request, and what is printed for
the line is the reply to that request.
-/

namespace DiceBot

namespace Bot

variable {σ : Type}

/-- The request that a message makes of the bot, unless the message asks nothing of it. -/
def request? (bot : Bot σ) (m : Message) : Option RollRequest :=
  (m.recognize.filter fun recognized => !bot.passesOn recognized).map Recognized.request

/-- A message that makes no request is not answered. -/
theorem handleMessage_of_request?_eq_none {bot : Bot σ} {m : Message} (h : bot.request? m = none)
    (channel : PrivateChannel) (player : Player) (s : σ) :
    bot.handleMessage channel player m s = ⟨.ok none, [], [], s⟩ := by
  cases hr : m.recognize with
  | none => exact handleMessage_of_none hr
  | some recognized =>
    cases hp : bot.passesOn recognized with
    | true => exact handleMessage_of_passesOn hr hp
    | false => simp [request?, hr, Option.filter, hp] at h

/-- A message that makes a request is answered like the request. -/
theorem handleMessage_of_request?_eq_some {bot : Bot σ} {m : Message} {request : RollRequest}
    (h : bot.request? m = some request) (channel : PrivateChannel) (player : Player) (s : σ) :
    bot.handleMessage channel player m s =
      ⟨(bot.execute channel player request s).result.map some,
        (bot.execute channel player request s).sent,
        (bot.execute channel player request s).calls,
        (bot.execute channel player request s).state⟩ := by
  simp only [request?, Option.map_eq_some_iff, Option.filter_eq_some_iff, Bool.not_eq_true'] at h
  obtain ⟨recognized, ⟨hr, hp⟩, rfl⟩ := h
  exact handleMessage_of_recognize hr hp

end Bot

namespace Console

variable {σ : Type}

/-- What is printed for a request, and what the evaluator remembers then. A request that is refused
or whose dice fail is answered in the open, hidden or not. -/
inductive Replies (bot : Bot σ) (p : Player) (request : RollRequest) (s : σ) : Text → σ → Prop
  | refused {e : RollError}
      (hplan : RollPlan.ofPayload bot.settings.limits request.payload = .error e) :
      Replies bot p request s (e.message ++ ['\n']) s
  | failed {plan : RollPlan} {fault : EvalError} {calls : List Text} {s' : σ}
      (hplan : RollPlan.ofPayload bot.settings.limits request.payload = .ok plan)
      (hrun : bot.evaluator.evaluateAll bot.settings.evaluator plan s =
        ⟨.error fault, calls, s'⟩) :
      Replies bot p request s (fault.message ++ ['\n']) s'
  | shown {plan : RollPlan} {outcomes : List Outcome} {calls : List Text} {s' : σ}
      (hhidden : request.hidden = false)
      (hplan : RollPlan.ofPayload bot.settings.limits request.payload = .ok plan)
      (hrun : bot.evaluator.evaluateAll bot.settings.evaluator plan s =
        ⟨.ok outcomes, calls, s'⟩) :
      Replies bot p request s
        (Reply.render bot.settings.limits (bot.displayName p) plan outcomes ++ ['\n']) s'
  | whispered {plan : RollPlan} {outcomes : List Outcome} {calls : List Text} {s' : σ}
      (hhidden : request.hidden = true)
      (hplan : RollPlan.ofPayload bot.settings.limits request.payload = .ok plan)
      (hrun : bot.evaluator.evaluateAll bot.settings.evaluator plan s =
        ⟨.ok outcomes, calls, s'⟩) :
      Replies bot p request s
        ("[private → ".toList ++ p.userId ++ "] ".toList ++
          Reply.render bot.settings.limits (bot.displayName p) plan outcomes ++ ['\n'] ++
          (bot.displayName p ++ " 投掷了暗骰。".toList ++ ['\n'])) s'

variable {bot : Bot σ} {p : Player}

/-- A private message is printed on a line of its own before the stub. -/
theorem printed_whispered (user name text : Text) :
    [PrivateMessage.mk user text].flatMap printedPrivately ++ printed (Reply.hiddenStub name) =
      "[private → ".toList ++ user ++ "] ".toList ++ text ++ ['\n'] ++
        (name ++ " 投掷了暗骰。".toList ++ ['\n']) := by
  rw [List.flatMap_singleton]
  rfl

/-- Every request has a reply. -/
theorem exists_replies (bot : Bot σ) (p : Player) (request : RollRequest) (s : σ) :
    ∃ t s', Replies bot p request s t s' := by
  have hp := bot.preparation p request s
  generalize bot.prepare p request s = prepared at hp
  cases hp with
  | refused e hplan => exact ⟨_, _, .refused hplan⟩
  | failed plan fault calls s' hplan hrun => exact ⟨_, _, .failed hplan hrun⟩
  | rendered plan outcomes calls s' hplan hrun =>
    cases hhidden : request.hidden with
    | false => exact ⟨_, _, .shown hhidden hplan hrun⟩
    | true => exact ⟨_, _, .whispered hhidden hplan hrun⟩

/-- The reply to a request is what the bot answers on the console, where every private message is
delivered. -/
theorem Replies.execute_eq {request : RollRequest} {s s' : σ} {t : Text}
    (h : Replies bot p request s t s') :
    ∃ reply sent calls, bot.execute channel p request s = ⟨.ok reply, sent, calls, s'⟩ ∧
      sent.flatMap printedPrivately ++ printed reply = t := by
  cases h with
  | refused hplan =>
    exact ⟨_, _, _, Bot.execute_of_error (Bot.Preparation.refused _ hplan).eq, rfl⟩
  | failed hplan hrun =>
    exact ⟨_, _, _, Bot.execute_of_error (Bot.Preparation.failed _ _ _ _ hplan hrun).eq, rfl⟩
  | shown hhidden hplan hrun =>
    have hprepare : bot.prepare p request s = _ :=
      (Bot.Preparation.rendered _ _ _ _ hplan hrun).eq
    rw [Bot.deliveryMode, hhidden] at hprepare
    exact ⟨_, _, _, Bot.execute_of_ok hprepare, rfl⟩
  | whispered hhidden hplan hrun =>
    have hprepare : bot.prepare p request s = _ :=
      (Bot.Preparation.rendered _ _ _ _ hplan hrun).eq
    rw [Bot.deliveryMode, hhidden] at hprepare
    exact ⟨_, _, _, Bot.execute_of_ok hprepare, printed_whispered _ _ _⟩

/-- A request has one reply. -/
theorem Replies.unique {request : RollRequest} {s s₁ s₂ : σ} {t₁ t₂ : Text}
    (h₁ : Replies bot p request s t₁ s₁) (h₂ : Replies bot p request s t₂ s₂) :
    t₁ = t₂ ∧ s₁ = s₂ := by
  obtain ⟨_, _, _, hanswer₁, rfl⟩ := h₁.execute_eq
  obtain ⟨_, _, _, hanswer₂, rfl⟩ := h₂.execute_eq
  cases hanswer₁.symm.trans hanswer₂
  exact ⟨rfl, rfl⟩

/-- The request that a chat line makes, if every line is addressed to the bot or only some are. -/
def request? (bot : Bot σ) (direct : Bool) (line : Text) : Option RollRequest :=
  let m := bot.message line
  bot.request? { m with addressed := m.addressed || direct }

/-- A line that makes no request is not answered. -/
theorem answerLine_of_none {direct : Bool} {line : Text} (h : request? bot direct line = none)
    (p : Player) (s : σ) : answerLine bot p direct line s = ⟨.ok none, [], [], s⟩ :=
  Bot.handleMessage_of_request?_eq_none h channel p s

/-- What is printed for a line is the reply to its request. -/
theorem replies_answerLine {direct : Bool} {line : Text} {request : RollRequest}
    (h : request? bot direct line = some request) (p : Player) (s : σ) :
    Replies bot p request s (printedAnswer (answerLine bot p direct line s))
      (answerLine bot p direct line s).state := by
  obtain ⟨t, s', hreply⟩ := exists_replies bot p request s
  obtain ⟨reply, sent, calls, hanswer, rfl⟩ := hreply.execute_eq
  rw [answerLine, Bot.handleMessage_of_request?_eq_some h, hanswer]
  exact hreply

/-- Lines that can all be read are answered to the end, and others break a chat off. -/
theorem code_runChat (bot : Bot σ) (p : Player) (direct : Bool) (ls : List (Option Text)) (s : σ) :
    (runChat bot p direct ls s).code = if none ∈ ls then 1 else 0 := by
  induction ls generalizing s with
  | nil => rfl
  | cons line ls ih =>
    cases line with
    | none => simp [runChat]
    | some line => simp [runChat, Exit.after, ih]

end Console

end DiceBot
