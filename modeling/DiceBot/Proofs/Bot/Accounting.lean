import Mathlib.Algebra.GroupWithZero.Nat
import DiceBot.Proofs.Bot.Preparation
import DiceBot.Proofs.Roll.Rendering

/-!
# Accounting for the calls of the evaluator

An evaluator that answers from a script makes its calls countable: the entry that a call gets is the
number of calls before it. One step of a session uses a run of consecutive entries, none if it comes
to no evaluation, up to the first failing entry otherwise, and never more than a roll may be
repeated. Over a whole session the runs of its steps follow one another without gap or overlap.
-/

namespace DiceBot

namespace Evaluator

/-- What a script comes to in `count` calls from entry number `start` on, and how many it takes. -/
inductive Serves (entry : Nat → Except EvalError Outcome) (start count : Nat) :
    Except EvalError (List Outcome) → Nat → Prop
  /-- All the entries are outcomes. -/
  | outcomes (os : List Outcome) (hall : (List.range' start count).map entry = os.map .ok) :
      Serves entry start count (.ok os) count
  /-- Some entry fails, and none of those before it. -/
  | failure (before : List Outcome) (e : EvalError) (hlt : before.length < count)
      (hbefore : (List.range' start before.length).map entry = before.map .ok)
      (hfail : entry (start + before.length) = .error e) :
      Serves entry start count (.error e) (before.length + 1)

theorem Serves.le {entry : Nat → Except EvalError Outcome} {start count used : Nat}
    {result : Except EvalError (List Outcome)} (h : Serves entry start count result used) :
    used ≤ count := by
  cases h with
  | outcomes os hall => exact Nat.le_refl count
  | failure before e hlt hbefore hfail => exact hlt

/-- The entries from `start` on serve one call more if entry `start` is an outcome. -/
private theorem Serves.cons {entry : Nat → Except EvalError Outcome} {start count used : Nat}
    {result : Except EvalError (List Outcome)} {o : Outcome} (ho : entry start = .ok o)
    (h : Serves entry (start + 1) count result used) :
    Serves entry start (count + 1) (result.map (o :: ·)) (used + 1) := by
  cases h with
  | outcomes os hall =>
    refine .outcomes (o :: os) ?_
    rw [List.range'_succ, List.map_cons, List.map_cons, ho, hall]
  | failure before e hlt hbefore hfail =>
    refine .failure (o :: before) e (Nat.succ_lt_succ hlt) ?_ ?_
    · rw [List.length_cons, List.range'_succ, List.map_cons, List.map_cons, ho, hbefore]
    · rw [List.length_cons, Nat.add_comm before.length 1, ← Nat.add_assoc]
      exact hfail

/-- A number of calls takes a run of entries, all with the same expression. -/
theorem times_ofScript (supports : Char → Bool) (entry : Nat → Except EvalError Outcome)
    (config : EvaluatorConfig) (expression : Text) (count start : Nat) :
    ∃ result used, Serves entry start count result used ∧
      (ofScript supports entry).times config expression count start =
        ⟨result, List.replicate used expression, start + used⟩ := by
  induction count generalizing start with
  | zero => exact ⟨.ok [], 0, .outcomes [] rfl, rfl⟩
  | succ count ih =>
    simp only [times, ofScript]
    cases hentry : entry start with
    | error e =>
      exact ⟨.error e, 1, .failure [] e (Nat.succ_pos count) rfl hentry, rfl⟩
    | ok o =>
      obtain ⟨result, used, hserves, htimes⟩ := ih (start + 1)
      simp only [ofScript] at htimes
      refine ⟨result.map (o :: ·), used + 1, hserves.cons hentry, ?_⟩
      simp only [htimes, List.replicate_succ, Calls.mk.injEq, true_and]
      omega

end Evaluator

namespace Action

/-- Whether an action only prepares a result. -/
def isPreparation : Action → Bool
  | .prepare _ => true
  | _ => false

end Action

namespace Bot

variable {σ : Type}

/-- The message that an action hands to the bot, if it is one. -/
def messageOf (bot : Bot σ) : Action → Option Message
  | .line line => some (bot.message line)
  | .message m => some m
  | _ => none

/-- Whether a message asks nothing of the bot: no rule fits it, or it begins with a bare die of a
family that the evaluator does not know. -/
def Ignores (bot : Bot σ) (m : Message) : Prop :=
  m.recognize = none ∨ ∃ family request, m.recognize = some ⟨.die family, request⟩ ∧
    bot.evaluator.supports family = false

/-- The request that an action comes to. -/
inductive Requests (bot : Bot σ) : Action → RollRequest → Prop
  | message (action : Action) (m : Message) (recognized : Recognized)
      (hm : bot.messageOf action = some m) (hr : m.recognize = some recognized)
      (hheard : ¬bot.Ignores m) : Requests bot action recognized.request
  | execute (request : RollRequest) : Requests bot (.execute request) request
  | command (arguments : Text) (hidden : Bool) :
      Requests bot (.command arguments hidden) ((RollRequest.ofArguments arguments).orHidden hidden)
  | prepare (request : RollRequest) : Requests bot (.prepare request) request

/-- What a step shows of a refusal: its text and nothing else, and nothing is sent. -/
def refusal (step : Step) (e : RollError) : Reaction :=
  if step.action.isPreparation then .prepared (.error e) else .answered (.ok (some e.message)) []

/-- What a step shows of a rendered text: the text, or for a hidden request the stub if the text was
delivered, and the failure if it was not. -/
def presentation (bot : Bot σ) (step : Step) (request : RollRequest) (text : Text) : Reaction :=
  if step.action.isPreparation then .prepared (.ok ⟨text, deliveryMode request⟩)
  else if request.hidden then
    match step.channel ⟨step.player.userId, text⟩ with
    | some reason => .answered (.error ⟨reason⟩) []
    | none => .answered (.ok (some (Reply.hiddenStub (bot.displayName step.player))))
        [⟨step.player.userId, text⟩]
  else .answered (.ok (some text)) []

/-- The account of one step that starts when `start` entries of the script have been used: what it
shows, the expressions it evaluates, and how many entries have been used afterwards. -/
inductive Accounts (bot : Bot σ) (entry : Nat → Except EvalError Outcome) (step : Step)
    (start : Nat) : Calls Nat Reaction → Prop
  /-- The message asks nothing of the bot. -/
  | ignored (m : Message) (hm : bot.messageOf step.action = some m) (hignores : bot.Ignores m) :
      Accounts bot entry step start ⟨.answered (.ok none) [], [], start⟩
  /-- Form or repeat count are refused before any call. -/
  | refused (request : RollRequest) (e : RollError) (hrequest : bot.Requests step.action request)
      (hplan : RollPlan.ofPayload bot.settings.limits request.payload = .error e)
      (he : (∃ issue, e = .format issue) ∨ e = .limit bot.settings.limits.maxRollTimes) :
      Accounts bot entry step start ⟨refusal step e, [], start⟩
  /-- An entry fails; its message is the reply, and the entries after it are left to later steps. -/
  | failed (request : RollRequest) (plan : RollPlan) (e : EvalError) (used : Nat)
      (hrequest : bot.Requests step.action request)
      (hplan : RollPlan.ofPayload bot.settings.limits request.payload = .ok plan)
      (hserves : Evaluator.Serves entry start plan.repeatCount (.error e) used) :
      Accounts bot entry step start
        ⟨if step.action.isPreparation then .prepared (.error (.evaluation e))
          else .answered (.ok (some e.message)) [],
          List.replicate used (Text.lower plan.written), start + used⟩
  /-- As many entries as the plan says are outcomes; the text lists their values. -/
  | rolled (request : RollRequest) (plan : RollPlan) (outcomes : List Outcome)
      (hrequest : bot.Requests step.action request)
      (hplan : RollPlan.ofPayload bot.settings.limits request.payload = .ok plan)
      (hserves : Evaluator.Serves entry start plan.repeatCount (.ok outcomes) plan.repeatCount) :
      Accounts bot entry step start
        ⟨bot.presentation step request
          (Reply.attribution (bot.displayName step.player) plan.reason ++ plan.display ++
            Reply.shownTrace bot.settings.limits plan outcomes ++ " = ".toList ++
              Text.join ", ".toList (outcomes.map Reply.value)),
          List.replicate plan.repeatCount (Text.lower plan.written), start + plan.repeatCount⟩

theorem ignores_iff_passesOn {bot : Bot σ} {m : Message} :
    bot.Ignores m ↔ m.recognize = none ∨ ∃ recognized, m.recognize = some recognized ∧
      bot.passesOn recognized = true := by
  apply or_congr_right
  simp only [passesOn_eq_true_iff]
  constructor
  · rintro ⟨family, request, hr, hs⟩
    exact ⟨_, hr, family, rfl, hs⟩
  · rintro ⟨⟨rule, request⟩, hr, family, rfl, hs⟩
    exact ⟨family, request, hr, hs⟩

/-- A step either hands over a message that asks nothing, or answers a request, or prepares one. -/
inductive Performed (bot : Bot σ) (step : Step) (s : σ) : Calls σ Reaction → Prop
  | ignored (m : Message) (hm : bot.messageOf step.action = some m) (hignores : bot.Ignores m) :
      Performed bot step s ⟨.answered (.ok none) [], [], s⟩
  | executed (request : RollRequest) (hrequest : bot.Requests step.action request)
      (haction : step.action.isPreparation = false) :
      Performed bot step s
        ⟨.answered ((bot.execute step.channel step.player request s).result.map some)
          (bot.execute step.channel step.player request s).sent,
          (bot.execute step.channel step.player request s).calls,
          (bot.execute step.channel step.player request s).state⟩
  | prepared (request : RollRequest) (hrequest : bot.Requests step.action request)
      (haction : step.action.isPreparation = true) :
      Performed bot step s
        ⟨.prepared (bot.prepare step.player request s).result,
          (bot.prepare step.player request s).calls, (bot.prepare step.player request s).state⟩

/-- Handing over a message performs a step. -/
private theorem performed_of_message {bot : Bot σ} {step : Step} {m : Message} (s : σ)
    (hm : bot.messageOf step.action = some m) (haction : step.action.isPreparation = false) :
    Performed bot step s
      ⟨.answered (bot.handleMessage step.channel step.player m s).result
        (bot.handleMessage step.channel step.player m s).sent,
        (bot.handleMessage step.channel step.player m s).calls,
        (bot.handleMessage step.channel step.player m s).state⟩ := by
  by_cases hi : bot.Ignores m
  · have hh : bot.handleMessage step.channel step.player m s = ⟨.ok none, [], [], s⟩ := by
      rcases ignores_iff_passesOn.mp hi with hnone | ⟨recognized, hr, hp⟩
      · exact handleMessage_of_none hnone
      · exact handleMessage_of_passesOn hr hp
    rw [hh]
    exact .ignored m hm hi
  · obtain ⟨hsome, hheard⟩ := not_or.mp (mt ignores_iff_passesOn.mpr hi)
    obtain ⟨recognized, hr⟩ := Option.ne_none_iff_exists'.mp hsome
    have hp : bot.passesOn recognized = false := by
      cases hp : bot.passesOn recognized with
      | false => rfl
      | true => exact absurd ⟨recognized, hr, hp⟩ hheard
    rw [handleMessage_of_recognize hr hp]
    exact .executed recognized.request (.message step.action m recognized hm hr hi) haction

theorem performed (bot : Bot σ) (step : Step) (s : σ) :
    Performed bot step s (bot.perform step s) := by
  obtain ⟨action, player, channel⟩ := step
  cases action with
  | line line => exact performed_of_message s rfl rfl
  | message m => exact performed_of_message s rfl rfl
  | execute request => exact .executed request (.execute request) rfl
  | command arguments hidden => exact .executed _ (.command arguments hidden) rfl
  | prepare request => exact .prepared request (.prepare request) rfl

/-- What a step that executes a request shows of the result that was prepared. -/
def shown (bot : Bot σ) (step : Step) : Except RollError Rendered → Reaction
  | .error e => refusal step e
  | .ok r =>
    .answered ((r.deliver step.channel step.player.userId (bot.displayName step.player)).result.map
      some) (r.deliver step.channel step.player.userId (bot.displayName step.player)).sent

/-- Executing a request shows what was prepared for it. -/
theorem execute_eq_shown (bot : Bot σ) (step : Step) (request : RollRequest) (s : σ)
    (haction : step.action.isPreparation = false) :
    Calls.mk (Reaction.answered
        ((bot.execute step.channel step.player request s).result.map some)
        (bot.execute step.channel step.player request s).sent)
      (bot.execute step.channel step.player request s).calls
      (bot.execute step.channel step.player request s).state =
    ⟨bot.shown step (bot.prepare step.player request s).result,
      (bot.prepare step.player request s).calls, (bot.prepare step.player request s).state⟩ := by
  rcases hq : bot.prepare step.player request s with ⟨result, calls, state⟩
  cases result with
  | error e =>
    rw [execute_of_error hq]
    simp only [shown, refusal, haction, Bool.false_eq_true, if_false, Except.map]
  | ok r => rw [execute_of_ok hq, shown]

section Script

variable (settings : Settings) (supports : Char → Bool) (entry : Nat → Except EvalError Outcome)

/-- The bot whose evaluator answers from a script. -/
def scriptedBot : Bot Nat := ⟨settings, .ofScript supports entry⟩

/-- What preparing a request shows and uses of the script, whatever way the result is presented. -/
private theorem accounts_prepare (step : Step) (start : Nat) (request : RollRequest)
    (hrequest : (scriptedBot settings supports entry).Requests step.action request)
    (present : Except RollError Rendered → Reaction)
    (herror : ∀ e, present (.error e) = refusal step e)
    (hok : ∀ text, present (.ok ⟨text, deliveryMode request⟩) =
      (scriptedBot settings supports entry).presentation step request text) :
    (scriptedBot settings supports entry).Accounts entry step start
      ⟨present ((scriptedBot settings supports entry).prepare step.player request start).result,
        ((scriptedBot settings supports entry).prepare step.player request start).calls,
        ((scriptedBot settings supports entry).prepare step.player request start).state⟩ := by
  have hp := (scriptedBot settings supports entry).preparation step.player request start
  generalize (scriptedBot settings supports entry).prepare step.player request start = prepared
    at hp
  cases hp with
  | refused e hplan =>
    have hs := RollPlan.sound_ofPayload settings.limits request.payload
    rw [show RollPlan.ofPayload settings.limits request.payload = .error e from hplan] at hs
    rw [herror]
    exact .refused request e hrequest hplan hs
  | failed plan e calls state hplan hrun =>
    obtain ⟨result, used, hserves, htimes⟩ := Evaluator.times_ofScript supports entry
      settings.evaluator plan.dice plan.repeatCount start
    obtain ⟨rfl, rfl, rfl⟩ := Calls.mk.inj (htimes.symm.trans hrun)
    rw [herror]
    exact .failed request plan e used hrequest hplan hserves
  | rendered plan outcomes calls state hplan hrun =>
    obtain ⟨result, used, hserves, htimes⟩ := Evaluator.times_ofScript supports entry
      settings.evaluator plan.dice plan.repeatCount start
    obtain ⟨rfl, rfl, rfl⟩ := Calls.mk.inj (htimes.symm.trans hrun)
    cases hserves with
    | outcomes os hall =>
      rw [hok, Reply.render_eq_values]
      exact .rolled request plan outcomes hrequest hplan (.outcomes outcomes hall)

/-- Every step is accounted for. -/
theorem accounts_perform (step : Step) (start : Nat) :
    (scriptedBot settings supports entry).Accounts entry step start
      ((scriptedBot settings supports entry).perform step start) := by
  have hperformed := (scriptedBot settings supports entry).performed step start
  generalize (scriptedBot settings supports entry).perform step start = reaction at hperformed
  cases hperformed with
  | ignored m hm hignores => exact .ignored m hm hignores
  | prepared request hrequest haction =>
    refine accounts_prepare settings supports entry step start request hrequest .prepared ?_ ?_
    · intro e
      simp only [refusal, haction, if_true]
    · intro text
      simp only [presentation, haction, if_true]
  | executed request hrequest haction =>
    rw [(scriptedBot settings supports entry).execute_eq_shown step request start haction]
    refine accounts_prepare settings supports entry step start request hrequest
      ((scriptedBot settings supports entry).shown step) ?_ ?_
    · intro e
      rfl
    · intro text
      cases hh : request.hidden with
      | false => simp [shown, presentation, deliveryMode, Rendered.deliver, haction, hh, Except.map]
      | true =>
        cases hc : step.channel ⟨step.player.userId, text⟩ <;>
          simp [shown, presentation, deliveryMode, Rendered.deliver, haction, hh, hc, Except.map]

/-- The number of entries that steps have used. -/
def entriesUsed (results : List (Calls Nat Reaction)) : Nat := (results.map (·.calls.length)).sum

theorem entriesUsed_take_succ {results : List (Calls Nat Reaction)} {i : Nat}
    {result : Calls Nat Reaction} (h : results[i]? = some result) :
    entriesUsed (results.take (i + 1)) = entriesUsed (results.take i) + result.calls.length := by
  simp only [entriesUsed, List.take_add_one, h, Option.toList_some, List.map_append, List.map_cons,
    List.map_nil, List.sum_append, List.sum_cons, List.sum_nil, Nat.add_zero]

/-- A step uses one entry for each expression it evaluates, and no more than a roll may be
repeated. -/
theorem Accounts.calls_length {settings : Settings} {supports : Char → Bool}
    {entry : Nat → Except EvalError Outcome} {step : Step} {start : Nat}
    {result : Calls Nat Reaction}
    (h : (scriptedBot settings supports entry).Accounts entry step start result) :
    result.state = start + result.calls.length ∧
      result.calls.length ≤ settings.limits.maxRollTimes.toNat := by
  have hbound {request : RollRequest} {plan : RollPlan}
      (hplan : RollPlan.ofPayload settings.limits request.payload = .ok plan) :
      plan.repeatCount ≤ settings.limits.maxRollTimes.toNat :=
    (RollPlan.repeatCount_range hplan).2
  cases h with
  | ignored m hm hignores => exact ⟨rfl, Nat.zero_le _⟩
  | refused request e hrequest hplan he => exact ⟨rfl, Nat.zero_le _⟩
  | failed request plan e used hrequest hplan hserves =>
    simp only [List.length_replicate]
    exact ⟨trivial, Nat.le_trans hserves.le (hbound hplan)⟩
  | rolled request plan outcomes hrequest hplan hserves =>
    simp only [List.length_replicate]
    exact ⟨trivial, hbound hplan⟩

theorem length_performAll {σ : Type} (bot : Bot σ) (steps : List Step) (s : σ) :
    (bot.performAll steps s).length = steps.length := by
  induction steps generalizing s with
  | nil => rfl
  | cons step steps ih => simp only [performAll, List.length_cons, ih]

/-- Step number `i` of a session starts where the steps before it have left the script. -/
theorem performAll_accounts (steps : List Step) (start i : Nat) (step : Step)
    (hi : steps[i]? = some step) :
    ∃ result, ((scriptedBot settings supports entry).performAll steps start)[i]? = some result ∧
      (scriptedBot settings supports entry).Accounts entry step
        (start +
          entriesUsed (((scriptedBot settings supports entry).performAll steps start).take i))
        result := by
  induction steps generalizing start i with
  | nil => cases hi
  | cons first steps ih =>
    have hfirst := accounts_perform settings supports entry first start
    cases i with
    | zero =>
      obtain rfl : first = step := Option.some.inj hi
      exact ⟨_, rfl, hfirst⟩
    | succ i =>
      obtain ⟨result, hresult, haccounts⟩ := ih
        ((scriptedBot settings supports entry).perform first start).state i hi
      refine ⟨result, hresult, ?_⟩
      simp only [performAll, List.take_succ_cons, entriesUsed, List.map_cons, List.sum_cons]
      rw [← Nat.add_assoc, ← hfirst.calls_length.1]
      exact haccounts

end Script

/-- Whatever is asked in a session, whoever asks and whatever becomes of private messages: every
step is accounted for, makes no more calls than a roll may be repeated, starts with the entry of the
script that follows those of the steps before it, and leaves the script behind its own. -/
theorem evaluatorCalls_accounted (settings : Settings) (supports : Char → Bool)
    (entry : Nat → Except EvalError Outcome) (steps : List Step) (start : Nat) :
    ((scriptedBot settings supports entry).performAll steps start).length = steps.length ∧
      ∀ (i : Nat) (step : Step), steps[i]? = some step →
        ∃ result, ((scriptedBot settings supports entry).performAll steps start)[i]? = some result ∧
          (scriptedBot settings supports entry).Accounts entry step
            (start +
              entriesUsed (((scriptedBot settings supports entry).performAll steps start).take i))
            result ∧
          result.calls.length ≤ settings.limits.maxRollTimes.toNat ∧
          result.state = start + entriesUsed
            (((scriptedBot settings supports entry).performAll steps start).take (i + 1)) := by
  refine ⟨length_performAll _ steps start, ?_⟩
  intro i step hi
  obtain ⟨result, hresult, haccounts⟩ := performAll_accounts settings supports entry steps start i
    step hi
  obtain ⟨hstate, hbound⟩ := haccounts.calls_length
  refine ⟨result, hresult, haccounts, hbound, ?_⟩
  rw [hstate, entriesUsed_take_succ hresult, Nat.add_assoc]

/-- A remark is passed over, three dice take entries 0 to 2, and the failing entry 3 ends a roll of
two; the next roll goes on with entry 4. -/
theorem evaluatorCalls_accounted_session :
    let player : Player := ⟨"7".toList, "alice".toList, none, none⟩
    let ask (action : Action) : Step := ⟨action, player, fun _ => none⟩
    let entry (i : Nat) : Except EvalError Outcome :=
      if i = 3 then .error (.other "no luck".toList) else .ok ⟨Int64.ofNat i, "trace".toList⟩
    let bot := scriptedBot .standard (· == 'd') entry
    let last := ask (.command "--rh D4".toList false)
    let steps := [ask (.line "hello".toList), ask (.line ".r3#D6".toList),
      ask (.prepare ⟨"2#d".toList, true⟩), last]
    let results := bot.performAll steps 0
    results.length = 4 ∧ steps[3]? = some last ∧ entriesUsed (results.take 3) = 4 ∧
      ∃ result, results[3]? = some result ∧ bot.Accounts entry last 4 result ∧
        result.calls.length ≤ 10 ∧ result.state = 5 := by
  intro player ask entry bot last steps results
  obtain ⟨hlength, hsteps⟩ := evaluatorCalls_accounted .standard (· == 'd') entry steps 0
  have hused : entriesUsed (results.take 3) = 4 := by decide +kernel
  have hnext : entriesUsed (results.take 4) = 5 := by decide +kernel
  obtain ⟨result, hresult, haccounts, hbound, hstate⟩ := hsteps 3 last rfl
  refine ⟨hlength, rfl, hused, result, hresult, ?_, hbound, ?_⟩
  · rw [show (4 : Nat) = 0 + entriesUsed (results.take 3) by rw [hused]]
    exact haccounts
  · rw [show (5 : Nat) = 0 + entriesUsed (results.take 4) by rw [hnext]]
    exact hstate

end Bot

end DiceBot
