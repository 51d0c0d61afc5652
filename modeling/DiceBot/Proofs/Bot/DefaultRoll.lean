import DiceBot.Proofs.Bot.Preparation
import DiceBot.Proofs.Dice.DefaultRoll
import DiceBot.Proofs.Roll.Splitting
import DiceBot.Proofs.Settings.Validation

/-!
# Requests that name no dice

A blank payload asks for one roll of the letter d. Accepted settings need not allow that roll: which
of them do can be told from three numbers, and those that do not refuse it whatever the source of
faces would have answered.
-/

namespace DiceBot

variable {σ : Type}

/-- A blank payload is one roll of the letter d. -/
theorem RollPlan.ofPayload_of_isBlank (limits : RollLimits) {payload : Text}
    (h : Text.isBlank payload = true) : ofPayload limits payload = .ok ⟨1, ['d'], none⟩ := by
  rw [ofPayload, Text.words_of_hasWords (.nil h)]
  exact RollPlan.ofExpression_of_not_mem (by decide)

namespace Evaluator

variable {evaluator : Evaluator σ} {config : EvaluatorConfig} {t : Text} {s s' : σ}

/-- One evaluation that comes to an outcome. -/
theorem times_one_of_ok {outcome : Outcome}
    (h : evaluator.evaluate config t s = (.ok outcome, s')) :
    evaluator.times config t 1 s = ⟨.ok [outcome], [t], s'⟩ := by
  simp only [times, h]
  rfl

/-- One evaluation that fails. -/
theorem times_one_of_error {e : EvalError} (h : evaluator.evaluate config t s = (.error e, s')) :
    evaluator.times config t 1 s = ⟨.error e, [t], s'⟩ := by
  simp only [times, h]

end Evaluator

namespace Bot

section

variable {bot : Bot σ} {request : RollRequest} {s s' : σ}

/-- A blank request whose evaluation comes to an outcome is answered with it. -/
theorem prepare_of_isBlank_of_ok (player : Player) (hblank : Text.isBlank request.payload = true)
    {outcome : Outcome}
    (h : bot.evaluator.evaluate bot.settings.evaluator ['d'] s = (.ok outcome, s')) :
    bot.prepare player request s =
      ⟨.ok ⟨Reply.render bot.settings.limits (bot.displayName player) ⟨1, ['d'], none⟩ [outcome],
        deliveryMode request⟩, [['d']], s'⟩ := by
  have hdice : RollPlan.dice ⟨1, ['d'], none⟩ = ['d'] := rfl
  simp only [prepare, RollPlan.ofPayload_of_isBlank _ hblank, Evaluator.evaluateAll, hdice,
    Evaluator.times_one_of_ok h]

/-- A blank request whose evaluation fails is refused for that reason. -/
theorem prepare_of_isBlank_of_error (player : Player)
    (hblank : Text.isBlank request.payload = true) {e : EvalError}
    (h : bot.evaluator.evaluate bot.settings.evaluator ['d'] s = (.error e, s')) :
    bot.prepare player request s = ⟨.error (.evaluation e), [['d']], s'⟩ := by
  have hdice : RollPlan.dice ⟨1, ['d'], none⟩ = ['d'] := rfl
  simp only [prepare, RollPlan.ofPayload_of_isBlank _ hblank, Evaluator.evaluateAll, hdice,
    Evaluator.times_one_of_error h]

end

section

variable {settings : Settings} {request : RollRequest} {library : DiceLibrary}
  (laws : library.Lawful) (answer : Nat → Request → Int) (rounds : Nat) (player : Player)
  (log : List Request)

include laws

/-- Where the default dice are allowed and fit, they are asked for, and the answers decide on the
outcome. -/
theorem prepare_default_eq_ok (hblank : Text.isBlank request.payload = true)
    (hallowed : settings.evaluator.defaults.count.toNat ≤ settings.evaluator.maxRollCount.toNat)
    (hcount : settings.evaluator.defaults.count.toNat ≤ 255)
    (hfaces : settings.evaluator.defaults.faces.toNat ≤ 255)
    (hpos : 1 ≤ settings.evaluator.defaults.faces.toNat) :
    let dice : Dice :=
      ⟨settings.evaluator.defaults.count.toNat, settings.evaluator.defaults.faces.toNat, []⟩
    let rolled := dice.rolledAt answer log.length
    prepare ⟨settings, .dice ⟨library, .ofAnswers answer, rounds⟩⟩ player request log =
      ⟨.ok ⟨Reply.render settings.limits (player.displayName settings.nameOrder)
          ⟨1, ['d'], none⟩ [⟨Int64.ofInt rolled.total, library.describe (.dice rolled)⟩],
          deliveryMode request⟩, [['d']], log ++ dice.requests⟩ := by
  intro dice rolled
  have heval :=
    DiceBox.evaluate_d_of_fits laws (.ofAnswers answer) rounds log hallowed hcount hfaces
  rw [DiceBox.evaluateArith_dice laws answer rounds log rfl hcount hfaces hpos] at heval
  exact prepare_of_isBlank_of_ok player hblank heval

/-- Where they are not allowed or do not fit, no die is asked for. -/
theorem prepare_default_eq_error (hblank : Text.isBlank request.payload = true)
    (h : ¬(settings.evaluator.defaults.count.toNat ≤ settings.evaluator.maxRollCount.toNat ∧
      settings.evaluator.defaults.count.toNat ≤ 255 ∧
      settings.evaluator.defaults.faces.toNat ≤ 255)) :
    prepare ⟨settings, .dice ⟨library, .ofAnswers answer, rounds⟩⟩ player request log =
      ⟨.error (.evaluation
        (if settings.evaluator.maxRollCount.toNat < settings.evaluator.defaults.count.toNat then
          .tooManyDice settings.evaluator.maxRollCount
        else .unreadable ['d'] (library.explain (settings.evaluator.defaults.expand ['d'])))),
        [['d']], log⟩ := by
  apply prepare_of_isBlank_of_error player hblank
  split
  · next hmany => exact DiceBox.evaluate_d_of_tooMany _ log hmany
  · next hallowed =>
    have hbytes := fun hbytes => h ⟨Nat.le_of_not_lt hallowed, hbytes⟩
    exact DiceBox.evaluate_d_of_unreadable laws _ rounds log (Nat.le_of_not_lt hallowed) hbytes

end

/-- Under accepted settings, for a request with a blank payload and whatever the source of faces
answers: the roll succeeds exactly if the default number of dice is allowed and both default numbers
fit a byte. Then it is one evaluation of the letter d, every die is asked for once, and the value is
the sum of the answers, each moved into the range of the request, so it lies between the number of
dice and that number times their faces; the trace shows these faces. Otherwise no die is asked for,
and the reply says that there are too many dice, or else that the letter d cannot be read. -/
theorem blank_request_exact {c : Configuration} {settings : Settings}
    (hsettings : c.settings = .ok settings) {request : RollRequest}
    (hblank : Text.isBlank request.payload = true) {library : DiceLibrary}
    (laws : library.Lawful) (answer : Nat → Request → Int) (rounds : Nat) (player : Player)
    (log : List Request) :
    let bot : Bot (List Request) := ⟨settings, .dice ⟨library, .ofAnswers answer, rounds⟩⟩
    let prepared := bot.prepare player request log
    let allowed := settings.evaluator.maxRollCount
    let count := settings.evaluator.defaults.count.toNat
    let faces := settings.evaluator.defaults.faces.toNat
    let fits := count ≤ allowed.toNat ∧ count ≤ 255 ∧ faces ≤ 255
    let asked : Request := ⟨1, faces⟩
    let face (i : Nat) : Int := asked.clamp (answer (log.length + i) asked)
    let explanation := library.explain (settings.evaluator.defaults.expand ['d'])
    ((∃ rendered, prepared.result = .ok rendered) ↔ fits) ∧
    (fits → ∃ (outcome : Outcome) (rendered : Rendered),
      prepared = ⟨.ok rendered, [['d']], log ++ List.replicate count asked⟩ ∧
      rendered = ⟨Reply.render settings.limits (bot.displayName player) ⟨1, ['d'], none⟩ [outcome],
        deliveryMode request⟩ ∧
      outcome.value.toInt = ((List.range count).map face).sum ∧
      outcome.trace = library.describe (.dice ⟨⟨count, faces, []⟩,
        (List.range count).map fun i => .fresh (face i).toNat⟩) ∧
      (count : Int) ≤ outcome.value.toInt ∧ outcome.value.toInt ≤ count * faces ∧
      ∀ channel, bot.execute channel player request log =
        ⟨(rendered.deliver channel player.userId (bot.displayName player)).result,
          (rendered.deliver channel player.userId (bot.displayName player)).sent, [['d']],
          log ++ List.replicate count asked⟩) ∧
    (¬fits → ∃ fault : EvalError,
      prepared = ⟨.error (.evaluation fault), [['d']], log⟩ ∧
      fault =
        (if allowed.toNat < count then .tooManyDice allowed else .unreadable ['d'] explanation) ∧
      ∀ channel, bot.execute channel player request log =
        ⟨.ok (if allowed.toNat < count then
            "单次投掷数量不能超过 ".toList ++ Text.natural allowed.toNat ++ " 个。".toList
          else "无法解析表达式 d：".toList ++ explanation), [], [['d']], log⟩) := by
  intro bot prepared allowed count faces fits asked face explanation
  have hpos : 1 ≤ faces := (Configuration.isUsable_of_settings hsettings).faces
  by_cases hfits : fits
  · obtain ⟨hallowed, hcount, hfaces⟩ := hfits
    let dice : Dice := ⟨count, faces, []⟩
    let rolled : RolledDice := dice.rolledAt answer log.length
    have hprepared : prepared = _ :=
      prepare_default_eq_ok laws answer rounds player log hblank hallowed hcount hfaces hpos
    have hvalue : (Int64.ofInt rolled.total).toInt = rolled.total :=
      toInt_ofInt_total answer log.length hcount hfaces hpos
    obtain ⟨hrequests, hrolled, htotal⟩ := Dice.rolledAt_of_pos answer log.length dice hpos
    obtain ⟨hlow, hhigh⟩ := Dice.total_rolledAt_bounds answer log.length dice hpos
    rw [hrequests] at hprepared
    refine ⟨iff_of_true ⟨_, congrArg Calls.result hprepared⟩ ⟨hallowed, hcount, hfaces⟩,
      fun _ => ?_, fun h => absurd ⟨hallowed, hcount, hfaces⟩ h⟩
    refine ⟨⟨Int64.ofInt rolled.total, library.describe (.dice rolled)⟩, _, hprepared, rfl,
      hvalue.trans htotal, congrArg (library.describe <| .dice ·) hrolled, ?_, ?_,
      fun channel => execute_of_ok hprepared⟩
    · rw [hvalue]
      exact_mod_cast hlow
    · rw [hvalue]
      exact_mod_cast hhigh
  · have hprepared := prepare_default_eq_error laws answer rounds player log hblank hfits
    have hresult : prepared.result = .error _ := congrArg Calls.result hprepared
    refine ⟨iff_of_false ?_ hfits, fun h => absurd h hfits, fun _ => ?_⟩
    · rintro ⟨rendered, hrendered⟩
      cases hresult.symm.trans hrendered
    · refine ⟨_, hprepared, rfl, ?_⟩
      intro channel
      rw [execute_of_error hprepared]
      split <;> rfl

/-- Two dice with six sides are rolled where three dice are allowed, one of them with an answer that
is out of range, and one die is too many where none is allowed. -/
theorem blank_request_exact_two_dice :
    let rolling : Configuration := ⟨none, none, some ⟨3, ⟨2, 6⟩⟩⟩
    let refusing : Configuration := ⟨none, none, some ⟨0, ⟨1, 100⟩⟩⟩
    let request : RollRequest := ⟨"  ".toList, false⟩
    let player : Player := ⟨"1".toList, "ann".toList, none, none⟩
    let library := Notation.library []
    let answer : Nat → Request → Int := fun i _ => [4, 100].getD i 0
    let box : DiceBox := ⟨library, .ofAnswers answer, 10⟩
    library.Lawful ∧
    (∃ settings, rolling.settings = .ok settings ∧ ∃ outcome : Outcome,
      (prepare ⟨settings, .dice box⟩ player request []).state = [⟨1, 6⟩, ⟨1, 6⟩] ∧
      outcome.value.toInt = 10 ∧ outcome.trace = "2d6[4, 6]".toList ∧
      (prepare ⟨settings, .dice box⟩ player request []).result =
        .ok ⟨Reply.render settings.limits (player.displayName settings.nameOrder)
          ⟨1, ['d'], none⟩ [outcome], .everyone⟩) ∧
    ∃ settings, refusing.settings = .ok settings ∧
      (execute ⟨settings, .dice box⟩ (fun _ => none) player request []).result =
        .ok "单次投掷数量不能超过 0 个。".toList := by
  intro rolling refusing request player library answer box
  have laws : library.Lawful := Notation.library_lawful []
  have hblank : Text.isBlank request.payload = true := by decide
  obtain ⟨settings, hsettings⟩ : ∃ settings, rolling.settings = .ok settings := ⟨_, rfl⟩
  obtain ⟨settings', hsettings'⟩ : ∃ settings, refusing.settings = .ok settings := ⟨_, rfl⟩
  have hevaluator := (Configuration.settings_eq_ok_iff.mp hsettings).2.evaluator
  have hevaluator' := (Configuration.settings_eq_ok_iff.mp hsettings').2.evaluator
  obtain ⟨-, hrolled, -⟩ := blank_request_exact hsettings hblank laws answer 10 player []
  obtain ⟨-, -, hrefused⟩ := blank_request_exact hsettings' hblank laws answer 10 player []
  rw [filled_iff.mp hevaluator] at hrolled
  rw [filled_iff.mp hevaluator'] at hrefused
  obtain ⟨outcome, rendered, hprepared, rfl, hvalue, htrace, -, -, -⟩ := hrolled (by decide)
  obtain ⟨fault, -, -, hexecute⟩ := hrefused (by decide)
  refine ⟨laws, ⟨settings, hsettings, outcome, ?_, hvalue.trans (by decide),
    htrace.trans (by decide), ?_⟩, settings', hsettings', ?_⟩
  · rw [hprepared]
    rfl
  · rw [hprepared]
    rfl
  · rw [hexecute]
    exact congrArg Except.ok (by decide)

end Bot

end DiceBot
