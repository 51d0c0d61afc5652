import DiceBot.Proofs.Dice.PlainDice
import DiceBot.Roll.Evaluator

/-!
# Repeated rolls

The rolls of a plan read the answers of a source of faces one after another, each from where the
roll before it stopped. Dice without modifiers ask for the same faces in every roll, so the requests
are as many repetitions of one block as there are rolls, and a roll does not depend on the answers
to any other.
-/

namespace DiceBot

namespace DiceBox

variable {library : DiceLibrary} (laws : library.Lawful) {answer : Nat → Request → Int}
  {rounds : Nat} {config : EvaluatorConfig} {t : Text} {log : List Request}

include laws

/-- Rolling and computing takes the answers from its first request on. -/
theorem evaluateArith_from (e : Arith Dice) :
    DiceBox.evaluateArith ⟨library, .ofAnswers answer, rounds⟩ e log =
      behind log (DiceBox.evaluateArith
        ⟨library, .ofAnswers fun i => answer (log.length + i), rounds⟩ e []) := by
  simp only [evaluateArith, laws.roll_from answer rounds e log]
  cases library.roll (.ofAnswers fun i => answer (log.length + i)) rounds e [] with
  | mk result log' =>
    cases result with
    | error fault => rfl
    | ok r => cases htotal : library.total r <;> simp only [htotal, behind]

/-- An evaluation takes the answers from its first request on. -/
theorem evaluate_from :
    DiceBox.evaluate ⟨library, .ofAnswers answer, rounds⟩ config t log =
      behind log (DiceBox.evaluate
        ⟨library, .ofAnswers fun i => answer (log.length + i), rounds⟩ config t []) := by
  have hlog : ∀ result : Except EvalError Outcome, (result, log) = behind log (result, []) :=
    fun result => Prod.ext rfl (List.append_nil log).symm
  cases hallows : Budget.allows config.maxRollCount (config.defaults.expand t) with
  | false =>
    simp only [evaluate, hallows, Bool.false_eq_true, if_false]
    exact hlog _
  | true =>
    cases hread : library.read? (Text.lower (config.defaults.expand t)) with
    | none =>
      simp only [evaluate, hallows, if_true, hread]
      exact hlog _
    | some e =>
      simp only [evaluate, hallows, if_true, hread]
      exact evaluateArith_from laws e

/-- A roll of a plain expression that comes to an outcome has asked for all its dice, and its
outcome is the total of what was rolled with its description. -/
theorem evaluate_plain_eq_ok {e : Arith Dice} {outcome : Outcome}
    (hread : library.read? (Text.lower (config.defaults.expand t)) = some e) (he : e.IsPlain)
    (h : (DiceBox.evaluate ⟨library, .ofAnswers answer, rounds⟩ config t log).1 = .ok outcome) :
    (DiceBox.evaluate ⟨library, .ofAnswers answer, rounds⟩ config t log).2 = log ++ e.requests ∧
      ∃ (r : RolledArith) (v : Int), library.total r = .ok v ∧
        outcome = ⟨Int64.ofInt v, library.describe r⟩ ∧
        r.IsRollOf e (e.requests.mapIdx fun i request =>
          .fresh (request.face (answer (log.length + i) request))) ∧
        ∀ d ∈ Arith.leaves r, ∃ position, d = d.dice.rolledAt answer position := by
  obtain ⟨r, hroll, hr, hfaces⟩ := laws.roll_plain answer rounds log he
  cases hallows : Budget.allows config.maxRollCount (config.defaults.expand t) with
  | false =>
    simp only [evaluate, hallows, Bool.false_eq_true, if_false] at h
    cases h
  | true =>
    simp only [evaluate, hallows, if_true, hread, evaluateArith, hroll] at h ⊢
    cases htotal : library.total r with
    | error fault =>
      rw [htotal] at h
      cases h
    | ok v =>
      rw [htotal] at h
      exact ⟨rfl, r, v, htotal, (Except.ok.inj h).symm, hr, hfaces⟩

end DiceBox

namespace Evaluator

/-- Rolls that come to outcomes, each of which asks for the same dice, ask for these dice as often
as there are rolls, and each roll begins where the one before it stopped. The induction is on the
number of rolls. -/
theorem times_dice_eq_ok {box : DiceBox} {config : EvaluatorConfig} {t : Text}
    {block : List Request}
    (hblock : ∀ log outcome, (box.evaluate config t log).1 = .ok outcome →
      (box.evaluate config t log).2 = log ++ block)
    {n : Nat} {log : List Request} {outcomes : List Outcome}
    (h : ((dice box).times config t n log).result = .ok outcomes) :
    ((dice box).times config t n log).state = log ++ (List.replicate n block).flatten ∧
      outcomes.length = n ∧
      ∀ i outcome, outcomes[i]? = some outcome →
        (box.evaluate config t (log ++ (List.replicate i block).flatten)).1 = .ok outcome := by
  induction n generalizing log outcomes with
  | zero =>
    obtain rfl := Except.ok.inj h
    exact ⟨(List.append_nil log).symm, rfl, fun i outcome hi => by cases hi⟩
  | succ n ih =>
    have hlength := length_of_times_eq_ok h
    obtain ⟨first, log', others, hevaluate, hothers, rfl, hstate⟩ := times_succ_eq_ok h
    have hfirst : (box.evaluate config t log).1 = .ok first := congrArg Prod.fst hevaluate
    have hlog : log' = log ++ block :=
      (congrArg Prod.snd hevaluate).symm.trans (hblock log first hfirst)
    rw [hlog] at hothers hstate
    obtain ⟨hstate', -, houtcomes⟩ := ih hothers
    refine ⟨?_, hlength, fun i outcome hi => ?_⟩
    · rw [hstate, hstate', List.replicate_succ, List.flatten_cons, List.append_assoc]
    · cases i with
      | zero =>
        obtain rfl := Option.some.inj hi
        rw [List.replicate_zero, List.flatten_nil, List.append_nil]
        exact hfirst
      | succ i =>
        rw [List.replicate_succ, List.flatten_cons, ← List.append_assoc]
        exact houtcomes i outcome hi

/-- What the rolls of a plan read, if they come to outcomes and the dice of the plan are written
with both their numbers and without modifiers. The requests are one block for each roll: for every
term from left to right as many requests as it has dice, for a face from one to the number of sides.
Each outcome is the one of a single roll with the answers from the position of its block on, and
what is rolled for it are these answers, moved into the range of the request; so the total of a term
lies between the number of its dice and that number times their sides. -/
theorem evaluateAll_reads_consecutive_blocks {library : DiceLibrary} (laws : library.Lawful)
    {plan : RollPlan} {e : Arith Dice}
    (hwritten : Notation.IsExpression plan.dice (e.map Dice.asWritten))
    (hplain : ∀ d ∈ e.leaves, d.modifiers = []) {answer : Nat → Request → Int} {rounds : Nat}
    {config : EvaluatorConfig} {log : List Request} {outcomes : List Outcome}
    (hresult : ((dice ⟨library, .ofAnswers answer, rounds⟩).evaluateAll config plan
      log).result = .ok outcomes) :
    let block := e.leaves.flatMap fun d => List.replicate d.count (⟨1, max d.sides 1⟩ : Request)
    let position (i : Nat) := log.length + i * (e.leaves.map Dice.count).sum
    ((dice ⟨library, .ofAnswers answer, rounds⟩).evaluateAll config plan log).state =
      log ++ (List.replicate plan.repeatCount block).flatten ∧
    outcomes.length = plan.repeatCount ∧
    ∀ i outcome, outcomes[i]? = some outcome →
      (DiceBox.evaluate ⟨library, .ofAnswers fun j => answer (position i + j), rounds⟩ config
        plan.dice []).1 = .ok outcome ∧
      ∃ (r : RolledArith) (v : Int), library.total r = .ok v ∧
        outcome = ⟨Int64.ofInt v, library.describe r⟩ ∧
        r.IsRollOf e (block.mapIdx fun j request =>
          .fresh (request.clamp (answer (position i + j) request)).toNat) ∧
        ∀ d ∈ Arith.leaves r, 1 ≤ d.dice.sides →
          d.dice.count ≤ d.total ∧ d.total ≤ d.dice.count * d.dice.sides := by
  intro block position
  have hread := laws.read?_eq_some_iff.mpr (Notation.isRollable_asWritten hwritten config.defaults)
  have hblock : e.requests = block := rfl
  have hposition : ∀ i, (log ++ (List.replicate i block).flatten).length = position i := by
    intro i
    rw [List.length_append, List.length_flatten, List.map_replicate, List.sum_replicate_nat,
      ← hblock, Arith.length_requests, Arith.diceAsked]
  obtain ⟨hstate, hlength, houtcomes⟩ := times_dice_eq_ok
    (fun log outcome h => (DiceBox.evaluate_plain_eq_ok laws hread hplain h).1) hresult
  refine ⟨hstate, hlength, fun i outcome hi => ?_⟩
  have hsingle := houtcomes i outcome hi
  rw [hblock] at hsingle
  obtain ⟨-, r, v, htotal, houtcome, hr, hfaces⟩ :=
    DiceBox.evaluate_plain_eq_ok laws hread hplain hsingle
  rw [DiceBox.evaluate_from laws] at hsingle
  simp only [hposition, behind] at hsingle hr
  refine ⟨hsingle, r, v, htotal, houtcome, hr, fun d hd hsides => ?_⟩
  obtain ⟨j, hj⟩ := hfaces d hd
  rw [hj]
  exact Dice.total_rolledAt_bounds answer j d.dice hsides

/-- Two rolls of two terms, one of them of a die without sides; three answers are out of range. -/
theorem evaluateAll_reads_consecutive_blocks_twice :
    let library := Notation.library []
    let plan : RollPlan := ⟨2, "(2D6 - 1)*1d0".toList, none⟩
    let e : Arith Dice := .binary .multiply (.binary .subtract (.dice ⟨2, 6, []⟩) (.number 1))
      (.dice ⟨1, 0, []⟩)
    let answer : Nat → Request → Int := fun i _ => [-5, 4, 0, 100, 3, 2].getD i 0
    let calls := (dice ⟨library, .ofAnswers answer, 0⟩).evaluateAll .standard plan []
    let first : Outcome := ⟨4, "(2d6[1, 4] - 1) * 1d0[1]".toList⟩
    let second : Outcome := ⟨8, "(2d6[6, 3] - 1) * 1d0[1]".toList⟩
    library.Lawful ∧ Notation.IsExpression plan.dice (e.map Dice.asWritten) ∧
      (∀ d ∈ e.leaves, d.modifiers = []) ∧ calls.result = .ok [first, second] ∧
      calls.state = [⟨1, 6⟩, ⟨1, 6⟩, ⟨1, 1⟩, ⟨1, 6⟩, ⟨1, 6⟩, ⟨1, 1⟩] ∧
      (DiceBox.evaluate ⟨library, .ofAnswers fun j => answer (3 + j), 0⟩ .standard plan.dice []).1 =
        .ok second := by
  intro library plan e answer calls first second
  have laws : library.Lawful := Notation.library_lawful []
  have hwritten : Notation.IsExpression plan.dice (e.map Dice.asWritten) :=
    Notation.readOpen?_eq_some_iff.mp (by decide +kernel)
  have hplain : ∀ d ∈ e.leaves, d.modifiers = [] := by decide
  have hresult : calls.result = .ok [first, second] := by decide +kernel
  obtain ⟨hstate, -, houtcomes⟩ :=
    evaluateAll_reads_consecutive_blocks laws hwritten hplain hresult
  exact ⟨laws, hwritten, hplain, hresult, hstate, (houtcomes 1 second rfl).1⟩

end Evaluator

end DiceBot
