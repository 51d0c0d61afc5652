import DiceBot.Proofs.Dice.CapitalLetters

/-!
# The limit on dice

The limit is checked against the numbers of dice in the text, before anything is rolled. It limits
the dice that are rolled only where the budget covers the expression: it counts every die that the
terms ask for, and no term can roll more than it asks for. Otherwise, if every modifier can end,
there are a limit and faces for which an evaluation comes to an end and has rolled more dice than it
may.
-/

namespace DiceBot

/-- Whether an evaluation comes to an end: rolling needs no more rounds than it is given. -/
def Returns (evaluation : Except EvalError Outcome × List Request) : Prop :=
  ∀ d, evaluation.1 ≠ .error (.rolling (.unfinished d))

/-- Whether no evaluation of a text that comes to an end asks for more dice than it may, whatever
the limit, the answers to the requests, the number of rounds it takes and the requests before it. -/
def LimitHolds (library : DiceLibrary) (defaults : DiceDefaults) (t : Text) : Prop :=
  ∀ (maxRollCount : UInt32) (answer : Nat → Request → Int) (rounds : Nat) (log : List Request),
    let box : DiceBox := ⟨library, .ofAnswers answer, rounds⟩
    Returns (box.evaluate ⟨maxRollCount, defaults⟩ t log) →
      (box.evaluate ⟨maxRollCount, defaults⟩ t log).2.length ≤ log.length + maxRollCount.toNat

/-- Whether the budget of a text counts every die that may be rolled for an expression. -/
def Budget.Covers (t : Text) (e : Arith Dice) : Prop :=
  e.diceAsked ≤ total t ∧ ∀ d ∈ e.leaves, d.canAdd = false

section

variable {library : DiceLibrary} (laws : library.Lawful) {defaults : DiceDefaults} {t : Text}

include laws

/-- A text that is turned down, or whose expression is covered, is rolled within every limit,
whether rolling comes to an end or not. -/
theorem length_evaluate_log_le
    (h : ∀ e, library.read? (Text.lower (defaults.expand t)) = some e →
      UInt32.size ≤ Budget.total (defaults.expand t) ∨ Budget.Covers (defaults.expand t) e)
    (maxRollCount : UInt32) (answer : Nat → Request → Int) (rounds : Nat) (log : List Request) :
    (DiceBox.evaluate ⟨library, .ofAnswers answer, rounds⟩ ⟨maxRollCount, defaults⟩ t
      log).2.length ≤ log.length + maxRollCount.toNat := by
  by_cases hrefused : Budget.allows maxRollCount (defaults.expand t) = false ∨
      library.read? (Text.lower (defaults.expand t)) = none
  · obtain ⟨fault, hfault⟩ := Budget.evaluate_of_refused ⟨library, .ofAnswers answer, rounds⟩
      ⟨maxRollCount, defaults⟩ log hrefused
    rw [hfault]
    exact Nat.le_add_right _ _
  · rw [not_or, Bool.not_eq_false, ← ne_eq, Option.ne_none_iff_exists'] at hrefused
    obtain ⟨hallows, e, hread⟩ := hrefused
    have hmax : maxRollCount.toNat < UInt32.size := maxRollCount.toNat_lt
    have htotal : Budget.total (defaults.expand t) ≤ maxRollCount.toNat :=
      Nat.le_of_ble_eq_true hallows
    have hlog : (DiceBox.evaluate ⟨library, .ofAnswers answer, rounds⟩ ⟨maxRollCount, defaults⟩ t
        log).2 = (library.roll (.ofAnswers answer) rounds e log).2 := by
      simp only [DiceBox.evaluate, hallows, if_true, hread, DiceBox.evaluateArith]
      split
      · next hroll => rw [hroll]
      · next hroll =>
        rw [hroll]
        split <;> rfl
    rcases h e hread with hlarge | ⟨hasked, hadd⟩
    · omega
    · have hwithin := laws.roll_within answer rounds log hadd
      rw [hlog]
      omega

/-- If every modifier can end, an expression that is not covered is rolled beyond the limit that the
budget just allows. -/
theorem exists_beyond_limit {e : Arith Dice}
    (hread : library.read? (Text.lower (defaults.expand t)) = some e)
    (hend : ∀ d ∈ e.leaves, d.CanEnd) (htotal : Budget.total (defaults.expand t) < UInt32.size)
    (hcovers : ¬Budget.Covers (defaults.expand t) e) :
    ∃ (maxRollCount : UInt32) (answer : Nat → Request → Int),
      let box : DiceBox := ⟨library, .ofAnswers answer, 1⟩
      Returns (box.evaluate ⟨maxRollCount, defaults⟩ t []) ∧
        maxRollCount.toNat < (box.evaluate ⟨maxRollCount, defaults⟩ t []).2.length := by
  obtain ⟨answer, r, asked, hroll, hasked, hadd⟩ := laws.roll_beyond hend
  have hmax : (UInt32.ofNat (Budget.total (defaults.expand t))).toNat =
      Budget.total (defaults.expand t) := UInt32.toNat_ofNat_of_lt' htotal
  have hallows : Budget.allows (UInt32.ofNat (Budget.total (defaults.expand t)))
      (defaults.expand t) = true := by
    rw [Budget.allows, hmax]
    exact Nat.ble_eq.mpr (Nat.le_refl _)
  have hbeyond : Budget.total (defaults.expand t) < asked.length := by
    have hle := Budget.total_le_diceAsked (laws.read?_eq_some_iff.mp hread)
    by_cases hsum : e.diceAsked ≤ Budget.total (defaults.expand t)
    · have hexists : ∃ d ∈ e.leaves, d.canAdd = true := by
        apply Classical.byContradiction
        intro hnone
        refine hcovers ⟨hsum, ?_⟩
        intro d hd
        rw [Bool.eq_false_iff]
        exact fun hcan => hnone ⟨d, hd, hcan⟩
      have := hadd hexists
      omega
    · omega
  refine ⟨UInt32.ofNat (Budget.total (defaults.expand t)), answer, ?_, ?_⟩
  · intro d
    simp only [DiceBox.evaluate, hallows, if_true, hread, DiceBox.evaluateArith, hroll 0]
    split <;> simp
  · simp only [DiceBox.evaluate, hallows, if_true, hread, DiceBox.evaluateArith, hroll 0, hmax]
    split <;> exact hbeyond

/-- Of a text in lower case the budget counts every die that the terms ask for, or more than any
limit allows. -/
theorem diceAsked_le_total {e : Arith Dice} (ht : Text.lower t = t)
    (hread : library.read? (Text.lower (defaults.expand t)) = some e) :
    UInt32.size ≤ Budget.total (defaults.expand t) ∨
      e.diceAsked ≤ Budget.total (defaults.expand t) := by
  have hlower := Budget.lower_expand_lower defaults t
  rw [ht] at hlower
  rw [hlower] at hread
  have hcounts := Budget.counts_of_isRollable defaults (laws.read?_eq_some_iff.mp hread)
  have hceiling : UInt32.size ≤ Budget.ceiling := by decide
  rw [Budget.total_eq_min hcounts, ← Arith.diceAsked]
  omega

/-- When the limit on dice holds. A text that cannot be read is never rolled. One that can be is
rolled within every limit if the budget covers its expression or exceeds all limits; and if all
modifiers can end, only then. The budget of a text in lower case counts all the dice that the terms
ask for, so there the limit fails exactly if some face makes a reroll or an explosion add a die. -/
theorem limitHolds_exactly (defaults : DiceDefaults) (t : Text) :
    (library.read? (Text.lower (defaults.expand t)) = none → LimitHolds library defaults t) ∧
      ∀ e, library.read? (Text.lower (defaults.expand t)) = some e →
        (UInt32.size ≤ Budget.total (defaults.expand t) ∨ Budget.Covers (defaults.expand t) e →
          LimitHolds library defaults t) ∧
        ((∀ d ∈ e.leaves, d.CanEnd) →
          (LimitHolds library defaults t ↔
            UInt32.size ≤ Budget.total (defaults.expand t) ∨
              Budget.Covers (defaults.expand t) e)) ∧
        (Text.lower t = t →
          UInt32.size ≤ Budget.total (defaults.expand t) ∨
            e.diceAsked ≤ Budget.total (defaults.expand t)) := by
  have hcovered : (∀ e, library.read? (Text.lower (defaults.expand t)) = some e →
      UInt32.size ≤ Budget.total (defaults.expand t) ∨ Budget.Covers (defaults.expand t) e) →
      LimitHolds library defaults t := by
    intro h maxRollCount answer rounds log box _
    exact length_evaluate_log_le laws h maxRollCount answer rounds log
  refine ⟨?_, ?_⟩
  · intro hnone
    apply hcovered
    intro e he
    cases hnone.symm.trans he
  · intro e he
    have hsufficient : UInt32.size ≤ Budget.total (defaults.expand t) ∨
        Budget.Covers (defaults.expand t) e → LimitHolds library defaults t := by
      intro h
      apply hcovered
      intro e' he'
      obtain rfl := Option.some.inj (he.symm.trans he')
      exact h
    refine ⟨hsufficient, ?_, fun ht => diceAsked_le_total laws ht he⟩
    intro hend
    refine ⟨?_, hsufficient⟩
    intro hlimit
    apply Classical.byContradiction
    intro hnot
    obtain ⟨hsmall, hcovers⟩ := not_or.mp hnot
    obtain ⟨maxRollCount, answer, hreturns, hbeyond⟩ :=
      exists_beyond_limit laws he hend (Nat.lt_of_not_le hsmall) hcovers
    have hle := hlimit maxRollCount answer 1 [] hreturns
    rw [List.length_nil, Nat.zero_add] at hle
    exact absurd hle (Nat.not_le_of_lt hbeyond)

end

/-- One die that explodes once is rolled as two dice where one is allowed. -/
theorem limit_exceeded_by_explosion :
    let box : DiceBox := ⟨Notation.library [], .ofAnswers fun _ _ => 6, 1⟩
    let config : EvaluatorConfig := ⟨1, .standard⟩
    let evaluation := box.evaluate config "1d6xo".toList []
    Returns evaluation ∧ evaluation.2 = [⟨1, 6⟩, ⟨1, 6⟩] ∧
      ¬evaluation.2.length ≤ config.maxRollCount.toNat := by
  intro box config evaluation
  have hasked : evaluation.2 = [⟨1, 6⟩, ⟨1, 6⟩] := by decide +kernel
  have hok : evaluation.1.isOk = true := by decide +kernel
  refine ⟨?_, hasked, ?_⟩
  · intro d hd
    rw [hd] at hok
    cases hok
  · rw [hasked]
    decide

/-- The limit holds for two dice of which one is kept and for a text that cannot be read, but not
for a die that is rolled again on a one. -/
theorem limitHolds_exactly_instances :
    let library := Notation.library []
    let kept := "2d6kh1".toList
    let rerolled := "1d6r1".toList
    let unreadable := "1d6+".toList
    library.Lawful ∧ LimitHolds library .standard unreadable ∧ LimitHolds library .standard kept ∧
      ¬LimitHolds library .standard rerolled ∧
      (UInt32.size ≤ Budget.total (DiceDefaults.standard.expand kept) ∨
        2 ≤ Budget.total (DiceDefaults.standard.expand kept)) := by
  intro library kept rerolled unreadable
  have laws : library.Lawful := Notation.library_lawful []
  obtain ⟨hnone, -⟩ := limitHolds_exactly laws .standard unreadable
  obtain ⟨-, hkept⟩ := limitHolds_exactly laws .standard kept
  obtain ⟨-, hrerolled⟩ := limitHolds_exactly laws .standard rerolled
  have hunread : library.read? (Text.lower (DiceDefaults.standard.expand unreadable)) = none := by
    decide +kernel
  have hreadKept : library.read? (Text.lower (DiceDefaults.standard.expand kept)) =
      some (.dice ⟨2, 6, [.keepHighest 1]⟩) := by decide +kernel
  have hreadRerolled : library.read? (Text.lower (DiceDefaults.standard.expand rerolled)) =
      some (.dice ⟨1, 6, [.reroll false ⟨.equal, 1⟩]⟩) := by decide +kernel
  obtain ⟨hsufficient, -, hlower⟩ := hkept _ hreadKept
  obtain ⟨-, hexactly, -⟩ := hrerolled _ hreadRerolled
  have hcovers : Budget.Covers (DiceDefaults.standard.expand kept)
      (.dice ⟨2, 6, [.keepHighest 1]⟩) := by
    refine ⟨by decide +kernel, ?_⟩
    intro d hd
    rw [List.mem_singleton.mp hd]
    decide
  have hend : ∀ d ∈ (Arith.dice (⟨1, 6, [.reroll false ⟨.equal, 1⟩]⟩ : Dice)).leaves, d.CanEnd := by
    intro d hd m hm
    rw [List.mem_singleton.mp hd] at hm ⊢
    exact Modifier.canEnd_of_sides (by decide) (by rw [List.mem_singleton.mp hm]; rfl)
  refine ⟨laws, hnone hunread, hsufficient (Or.inr hcovers), ?_, hlower (by decide +kernel)⟩
  intro hlimit
  rcases (hexactly hend).mp hlimit with hlarge | ⟨-, hadd⟩
  · exact absurd hlarge (by decide +kernel)
  · exact absurd (hadd _ (List.mem_singleton.mpr rfl)) (by decide)

end DiceBot
