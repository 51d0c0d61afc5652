import DiceBot.Proofs.Bot.Preparation
import DiceBot.Proofs.Chat.HiddenRequest

/-!
# Hidden rolls stay confidential

A line that asks for a hidden roll is never answered with what was rolled. It is left alone, refused
with a text that names no roll, answered with a stub after the result went to the user who asked, or
answered with nothing but the failure to reach that user. The private text is the one that the same
request made in the open would have been answered with, so hiding changes only who reads it.
-/

namespace DiceBot

variable {σ : Type}

/-- The same request made in the open. -/
def RollRequest.openly (request : RollRequest) : RollRequest := { request with hidden := false }

/-- A rendered text for everyone. -/
def Rendered.openly (r : Rendered) : Rendered := { r with mode := .everyone }

namespace Bot

/-- Whether a line is directed at the bot and asks for a hidden roll. -/
def AsksHiddenIn (bot : Bot σ) (line : Text) : Prop :=
  (bot.message line).IsDirected ∧ AsksHidden (bot.message line).body

/-- The answers to a line that keep the roll hidden. -/
inductive KeepsHidden (bot : Bot σ) (channel : PrivateChannel) (player : Player) (line : Text)
    (s : σ) : Answer σ (Option Text) → Prop
  /-- The line runs on into a word and is left to others: there is no answer, and nothing is
  evaluated or sent. -/
  | ignored (hnone : (bot.message line).recognize = none) :
      KeepsHidden bot channel player line s ⟨.ok none, [], [], s⟩
  /-- Form, repeat count or dice are refused: the answer is the text of the refusal, and nothing is
  sent. -/
  | refused (recognized : Recognized) (e : RollError) (calls : List Text) (state : σ)
      (hrecognized : (bot.message line).recognize = some recognized)
      (he : (∃ issue, e = .format issue) ∨ (∃ max, e = .limit max) ∨ ∃ fault, e = .evaluation fault)
      (hprepared : bot.prepare player recognized.request s = ⟨.error e, calls, state⟩) :
      KeepsHidden bot channel player line s ⟨.ok (some e.message), [], calls, state⟩
  /-- The user who asked gets what everyone would have got, and the channel a stub with the name. -/
  | whispered (recognized : Recognized) (text : Text) (mode : DeliveryMode) (calls : List Text)
      (state : σ) (hrecognized : (bot.message line).recognize = some recognized)
      (hprepared : bot.prepare player recognized.request s = ⟨.ok ⟨text, mode⟩, calls, state⟩)
      (hopen : bot.execute channel player recognized.request.openly s =
        ⟨.ok text, [], calls, state⟩)
      (hchannel : channel ⟨player.userId, text⟩ = none) :
      KeepsHidden bot channel player line s
        ⟨.ok (some (bot.displayName player ++ " 投掷了暗骰。".toList)), [⟨player.userId, text⟩], calls,
          state⟩
  /-- The user who asked cannot be reached: the failure is all that comes back. -/
  | undelivered (recognized : Recognized) (text reason : Text) (mode : DeliveryMode)
      (calls : List Text) (state : σ)
      (hrecognized : (bot.message line).recognize = some recognized)
      (hprepared : bot.prepare player recognized.request s = ⟨.ok ⟨text, mode⟩, calls, state⟩)
      (hopen : bot.execute channel player recognized.request.openly s =
        ⟨.ok text, [], calls, state⟩)
      (hchannel : channel ⟨player.userId, text⟩ = some reason) :
      KeepsHidden bot channel player line s ⟨.error ⟨reason⟩, [], calls, state⟩

/-- Preparing a request in the open evaluates and renders the same. -/
theorem prepare_openly (bot : Bot σ) (player : Player) (request : RollRequest) (s : σ) :
    bot.prepare player request.openly s =
      ⟨(bot.prepare player request s).result.map Rendered.openly,
        (bot.prepare player request s).calls, (bot.prepare player request s).state⟩ := by
  have hpayload : request.openly.payload = request.payload := rfl
  simp only [prepare, hpayload]
  cases RollPlan.ofPayload bot.settings.limits request.payload with
  | error e => rfl
  | ok plan =>
    dsimp only
    cases (bot.evaluator.evaluateAll bot.settings.evaluator plan s).result with
    | error e => rfl
    | ok outcomes => rfl

/-- A request made in the open is answered in the channel, whatever comes of it. -/
theorem execute_of_not_hidden (bot : Bot σ) (channel : PrivateChannel) (player : Player)
    {request : RollRequest} (s : σ) (h : request.hidden = false) :
    (bot.execute channel player request s).sent = [] ∧
      ∃ text, (bot.execute channel player request s).result = .ok text := by
  have hp := bot.preparation player request s
  generalize hq : bot.prepare player request s = prepared at hp
  cases hp with
  | refused e hplan =>
    rw [execute_of_error hq]
    exact ⟨rfl, _, rfl⟩
  | failed plan e calls state hplan hrun =>
    rw [execute_of_error hq]
    exact ⟨rfl, _, rfl⟩
  | rendered plan outcomes calls state hplan hrun =>
    have hmode : deliveryMode request = .everyone := by
      simp only [deliveryMode, h, Bool.false_eq_true, if_false]
    rw [execute_of_ok hq, hmode]
    exact ⟨rfl, _, rfl⟩

/-- Where a private message was delivered, the channel of the request got the stub. -/
theorem execute_of_sent {bot : Bot σ} {channel : PrivateChannel} {player : Player}
    {request : RollRequest} {s : σ} (h : (bot.execute channel player request s).sent ≠ []) :
    (bot.execute channel player request s).result =
      .ok (Reply.hiddenStub (bot.displayName player)) := by
  rcases hq : bot.prepare player request s with ⟨result, calls, state⟩
  cases result with
  | error e =>
    rw [execute_of_error hq] at h
    exact absurd rfl h
  | ok r =>
    rw [execute_of_ok hq] at h ⊢
    obtain ⟨text, mode⟩ := r
    cases mode with
    | everyone => exact absurd rfl h
    | privately =>
      simp only [Rendered.deliver] at h ⊢
      split at h
      · exact absurd rfl h
      · rfl

/-- Where answering a line sent a private message, the line is answered with the stub. -/
theorem handleLine_of_sent {bot : Bot σ} {channel : PrivateChannel} {player : Player} {line : Text}
    {s : σ} (h : (bot.handleLine channel player line s).sent ≠ []) :
    (bot.handleLine channel player line s).result =
      .ok (some (Reply.hiddenStub (bot.displayName player))) := by
  unfold handleLine at h ⊢
  cases hr : (bot.message line).recognize with
  | none =>
    rw [handleMessage_of_none hr] at h
    exact absurd rfl h
  | some recognized =>
    cases hp : bot.passesOn recognized with
    | true =>
      rw [handleMessage_of_passesOn hr hp] at h
      exact absurd rfl h
    | false =>
      rw [handleMessage_of_recognize hr hp] at h ⊢
      rw [execute_of_sent h]
      rfl

/-- A hidden request is answered so that the roll stays hidden. -/
private theorem keepsHidden_of_execute {bot : Bot σ} {channel : PrivateChannel} {player : Player}
    {line : Text} {s : σ} {recognized : Recognized}
    (hr : (bot.message line).recognize = some recognized)
    (hh : recognized.request.hidden = true) :
    bot.KeepsHidden channel player line s
      ⟨(bot.execute channel player recognized.request s).result.map some,
        (bot.execute channel player recognized.request s).sent,
        (bot.execute channel player recognized.request s).calls,
        (bot.execute channel player recognized.request s).state⟩ := by
  rcases hq : bot.prepare player recognized.request s with ⟨result, calls, state⟩
  cases result with
  | error e =>
    rw [execute_of_error hq]
    exact .refused recognized e calls state hr (prepare_error (congrArg Calls.result hq)) hq
  | ok r =>
    obtain ⟨text, mode⟩ := r
    have hmode : mode = .privately := by
      have hp := bot.preparation player recognized.request s
      rw [hq] at hp
      cases hp with
      | rendered => simp only [deliveryMode, hh, if_true]
    have hopen : bot.execute channel player recognized.request.openly s =
        ⟨.ok text, [], calls, state⟩ := by
      refine execute_of_ok (r := ⟨text, .everyone⟩) ?_
      rw [prepare_openly, hq]
      rfl
    subst hmode
    rw [execute_of_ok hq]
    simp only [Rendered.deliver]
    cases hc : channel ⟨player.userId, text⟩ with
    | none => exact .whispered recognized text _ calls state hr hq hopen hc
    | some reason => exact .undelivered recognized text reason _ calls state hr hq hopen hc

/-- A line that asks for a hidden roll is answered so that the roll stays hidden. -/
theorem handleLine_keepsHidden (bot : Bot σ) (channel : PrivateChannel) (player : Player)
    {line : Text} (s : σ) (h : bot.AsksHiddenIn line) :
    bot.KeepsHidden channel player line s (bot.handleLine channel player line s) := by
  have hb := Message.recognize_of_isDirected h.1
  unfold handleLine
  rcases Recognition.hidden_of_asksHidden h.2 with hn | ⟨payload, rule, hs, hrule⟩
  · rw [handleMessage_of_none (hb.trans hn)]
    exact .ignored (hb.trans hn)
  · have hp : bot.passesOn ⟨rule, ⟨payload, true⟩⟩ = false := by
      rcases hrule with rfl | rfl <;> rfl
    rw [handleMessage_of_recognize (hb.trans hs) hp]
    exact keepsHidden_of_execute (hb.trans hs) rfl

/-- Any other line is answered in the channel, if at all. -/
theorem handleLine_of_not_asksHidden (bot : Bot σ) (channel : PrivateChannel) (player : Player)
    {line : Text} (s : σ) (h : ¬bot.AsksHiddenIn line) :
    (bot.handleLine channel player line s).sent = [] ∧
      ∃ reply, (bot.handleLine channel player line s).result = .ok reply := by
  unfold handleLine
  cases hr : (bot.message line).recognize with
  | none =>
    rw [handleMessage_of_none hr]
    exact ⟨rfl, none, rfl⟩
  | some recognized =>
    cases hp : bot.passesOn recognized with
    | true =>
      rw [handleMessage_of_passesOn hr hp]
      exact ⟨rfl, none, rfl⟩
    | false =>
      have hh : recognized.request.hidden = false := by
        cases hh : recognized.request.hidden with
        | false => rfl
        | true => exact absurd (Message.asksHidden_of_recognize hr hh) h
      obtain ⟨hsent, text, hresult⟩ := bot.execute_of_not_hidden channel player s hh
      rw [handleMessage_of_recognize hr hp, hresult]
      exact ⟨hsent, some text, rfl⟩

/-- Hidden rolls stay confidential. A line that asks for one is answered in one of four ways, none
of which shows a roll in the channel. Any two runs under the same settings for the same player that
sent a private message have the same public answer, whatever was asked and rolled in them. A request
made in the open, and a line that asks for no hidden roll, send nothing in private. -/
theorem hiddenRolls_confidential :
    (∀ {σ : Type} (bot : Bot σ) (channel : PrivateChannel) (player : Player) (line : Text) (s : σ),
      bot.AsksHiddenIn line →
        bot.KeepsHidden channel player line s (bot.handleLine channel player line s)) ∧
    (∀ {σ τ : Type} (bot : Bot σ) (bot' : Bot τ) (channel channel' : PrivateChannel)
      (player : Player) (line line' : Text) (s : σ) (s' : τ), bot.settings = bot'.settings →
      (bot.handleLine channel player line s).sent ≠ [] →
      (bot'.handleLine channel' player line' s').sent ≠ [] →
        (bot.handleLine channel player line s).result =
          (bot'.handleLine channel' player line' s').result) ∧
    (∀ {σ : Type} (bot : Bot σ) (channel : PrivateChannel) (player : Player)
      (request : RollRequest) (s : σ), request.hidden = false →
        (bot.execute channel player request s).sent = [] ∧
          ∃ text, (bot.execute channel player request s).result = .ok text) ∧
    (∀ {σ : Type} (bot : Bot σ) (channel : PrivateChannel) (player : Player) (line : Text) (s : σ),
      ¬bot.AsksHiddenIn line →
        (bot.handleLine channel player line s).sent = [] ∧
          ∃ reply, (bot.handleLine channel player line s).result = .ok reply) := by
  refine ⟨?_, ?_, ?_, ?_⟩
  · intro σ bot channel player line s h
    exact bot.handleLine_keepsHidden channel player s h
  · intro σ τ bot bot' channel channel' player line line' s s' hsettings hsent hsent'
    rw [handleLine_of_sent hsent, handleLine_of_sent hsent', displayName, displayName, hsettings]
  · intro σ bot channel player request s h
    exact bot.execute_of_not_hidden channel player s h
  · intro σ bot channel player line s h
    exact bot.handleLine_of_not_asksHidden channel player s h

/-- Two bots that roll differently answer a marked line and a command with a flag alike. -/
theorem hiddenRolls_confidential_stub :
    let player : Player := ⟨"7".toList, "alice".toList, none, none⟩
    let channel : PrivateChannel := fun _ => none
    let bot : Bot Nat := ⟨.standard, .scripted (fun _ => true) [.ok ⟨3, ['3']⟩]⟩
    let bot' : Bot Nat := ⟨.standard, .scripted (fun _ => true) [.ok ⟨5, ['5']⟩]⟩
    let line := ".rh2#d6 luck".toList
    let line' := ".roll d20 --rh".toList
    let request : RollRequest := ⟨"d6".toList, false⟩
    (bot.AsksHiddenIn line ∧
        bot.KeepsHidden channel player line 0 (bot.handleLine channel player line 0)) ∧
      ((bot.settings = bot'.settings ∧ (bot.handleLine channel player line 0).sent ≠ [] ∧
          (bot'.handleLine channel player line' 0).sent ≠ []) ∧
        (bot.handleLine channel player line 0).result =
          (bot'.handleLine channel player line' 0).result) ∧
      (request.hidden = false ∧ (bot.execute channel player request 0).sent = []) ∧
      (¬bot.AsksHiddenIn "d6".toList ∧
        (bot.handleLine channel player "d6".toList 0).sent = []) := by
  intro player channel bot bot' line line' request
  have hline : bot.AsksHiddenIn line := by
    have hbody : (bot.message line).body = "rh".toList ++ "2#d6 luck".toList := by decide +kernel
    refine ⟨Or.inl (by decide +kernel), ?_⟩
    rw [hbody]
    exact .marked _
  have hnot : ¬bot.AsksHiddenIn "d6".toList := by
    rintro ⟨hlead | haddressed, _⟩
    · exact absurd hlead (by decide +kernel)
    · exact absurd haddressed (by decide +kernel)
  have hsent : (bot.handleLine channel player line 0).sent ≠ [] := by decide +kernel
  have hsent' : (bot'.handleLine channel player line' 0).sent ≠ [] := by decide +kernel
  obtain ⟨hkeeps, htwo, hopen, hother⟩ := hiddenRolls_confidential
  exact ⟨⟨hline, hkeeps bot channel player line 0 hline⟩,
    ⟨⟨rfl, hsent, hsent'⟩, htwo bot bot' channel channel player line line' 0 0 rfl hsent hsent'⟩,
    ⟨rfl, (hopen bot channel player request 0 rfl).1⟩,
    ⟨hnot, (hother bot channel player "d6".toList 0 hnot).1⟩⟩

end Bot

end DiceBot
