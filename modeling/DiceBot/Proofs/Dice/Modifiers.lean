import DiceBot.Proofs.Dice.Laws

/-!
# What modifiers do to dice

Only rerolls and explosions roll dice, and only for a kept die that meets their condition. Whether a
die of some value makes modifiers roll further dice is therefore found by following the value
through them. A modifier that hits no die leaves every kept die with the value that is followed.
-/

namespace DiceBot

namespace Modifier

/-- If the bounds of a condition do not make it certain, some face fails it. -/
theorem exists_face_of_not_certain {sides : Nat} (hsides : 1 ≤ sides) {c : Condition}
    (hc : c.isCertain sides = false) : ∃ f, 1 ≤ f ∧ f ≤ max sides 1 ∧ c.holds f = false := by
  obtain ⟨comparison, bound⟩ := c
  rw [Nat.max_eq_left hsides]
  cases comparison with
  | equal =>
    simp only [Condition.isCertain, Bool.and_eq_false_iff, beq_eq_false_iff_ne] at hc
    by_cases hbound : bound = 1
    · refine ⟨sides, hsides, Nat.le_refl _, ?_⟩
      simp only [Condition.holds, Comparison.holds, beq_eq_false_iff_ne]
      omega
    · refine ⟨1, Nat.le_refl _, hsides, ?_⟩
      simp only [Condition.holds, Comparison.holds, beq_eq_false_iff_ne]
      omega
  | above =>
    rw [Condition.isCertain, beq_eq_false_iff_ne] at hc
    refine ⟨1, Nat.le_refl _, hsides, ?_⟩
    rw [Condition.holds, Comparison.holds, Bool.eq_false_iff, ne_eq, Nat.blt_eq]
    omega
  | atLeast =>
    rw [Condition.isCertain, Bool.eq_false_iff, ne_eq, Nat.ble_eq] at hc
    refine ⟨1, Nat.le_refl _, hsides, ?_⟩
    rw [Condition.holds, Comparison.holds, Bool.eq_false_iff, ne_eq, Nat.ble_eq]
    omega
  | below =>
    rw [Condition.isCertain, Bool.eq_false_iff, ne_eq, Nat.blt_eq] at hc
    refine ⟨sides, hsides, Nat.le_refl _, ?_⟩
    rw [Condition.holds, Comparison.holds, Bool.eq_false_iff, ne_eq, Nat.blt_eq]
    omega
  | atMost =>
    rw [Condition.isCertain, Bool.eq_false_iff, ne_eq, Nat.ble_eq] at hc
    refine ⟨sides, hsides, Nat.le_refl _, ?_⟩
    rw [Condition.holds, Comparison.holds, Bool.eq_false_iff, ne_eq, Nat.ble_eq]
    omega

/-- For dice with sides, what is not refused can end: the check of the bounds misses nothing. -/
theorem canEnd_of_sides {sides : Nat} (hsides : 1 ≤ sides) {m : Modifier}
    (hm : m.isEndless sides = false) : m.CanEnd sides := by
  refine ⟨hm, ?_⟩
  intro hrepeats
  cases m with
  | reroll untilNone c =>
    obtain rfl : untilNone = true := hrepeats
    exact exists_face_of_not_certain hsides hm
  | explode untilNone c =>
    obtain rfl : untilNone = true := hrepeats
    cases c with
    | some c => exact exists_face_of_not_certain hsides hm
    | none =>
      have hne : sides ≠ 1 := beq_eq_false_iff_ne.mp hm
      refine ⟨1, Nat.le_refl _, Nat.le_max_right _ _, ?_⟩
      exact beq_eq_false_iff_ne.mpr hne.symm
  | keepHighest n => cases hrepeats
  | keepLowest n => cases hrepeats
  | raiseTo n => cases hrepeats
  | lowerTo n => cases hrepeats

end Modifier

/-- Keeps the dice that fewer than `count` dice are better than. -/
def keepBy (better : (before : List Die) → Die → (rest : List Die) → Nat) (count : Nat)
    (before : List Die) : List Die → List Die
  | [] => []
  | die :: rest =>
    (if better before die rest < count then die else die.drop) ::
      keepBy better count (die :: before) rest

/-- How many dice are higher than a die, or as high and later. -/
def higher (before : List Die) (die : Die) (rest : List Die) : Nat :=
  before.countP (Die.hits (Nat.blt die.value)) + rest.countP (Die.hits (Nat.ble die.value))

/-- How many dice are lower than a die, or as low and earlier. -/
def lower (before : List Die) (die : Die) (rest : List Die) : Nat :=
  before.countP (Die.hits fun value => Nat.ble value die.value) +
    rest.countP (Die.hits fun value => Nat.blt value die.value)

theorem keepHighest_eq_keepBy (count : Nat) (before dice : List Die) :
    keepHighest count before dice = keepBy higher count before dice := by
  induction dice generalizing before with
  | nil => rfl
  | cons die rest ih => rw [keepHighest, keepBy, ih, higher]

theorem keepLowest_eq_keepBy (count : Nat) (before dice : List Die) :
    keepLowest count before dice = keepBy lower count before dice := by
  induction dice generalizing before with
  | nil => rfl
  | cons die rest ih => rw [keepLowest, keepBy, ih, lower]

section KeepBy

variable (better : (before : List Die) → Die → (rest : List Die) → Nat) (count : Nat)

theorem length_keepBy (before dice : List Die) :
    (keepBy better count before dice).length = dice.length := by
  induction dice generalizing before with
  | nil => rfl
  | cons die rest ih => rw [keepBy, List.length_cons, ih, List.length_cons]

/-- What is kept was there, and nothing is kept if no dice are to be kept. -/
theorem mem_of_mem_keepBy {before dice : List Die} {die : Die}
    (hdie : die ∈ keepBy better count before dice) (hkept : die.dropped = false) :
    die ∈ dice ∧ count ≠ 0 := by
  induction dice generalizing before with
  | nil => cases hdie
  | cons first rest ih =>
    rw [keepBy, List.mem_cons] at hdie
    rcases hdie with hfirst | hrest
    · by_cases hlt : better before first rest < count
      · rw [if_pos hlt] at hfirst
        rw [hfirst]
        exact ⟨List.mem_cons_self, by omega⟩
      · rw [if_neg hlt] at hfirst
        rw [hfirst] at hkept
        cases hkept
    · obtain ⟨hmem, hcount⟩ := ih hrest
      exact ⟨List.mem_cons_of_mem first hmem, hcount⟩

/-- A die than which none is better is kept. -/
theorem mem_keepBy_of_best (hcount : count ≠ 0) {before left right : List Die} {die : Die}
    (hbest : better (left.reverse ++ before) die right = 0) :
    die ∈ keepBy better count before (left ++ die :: right) := by
  induction left generalizing before with
  | nil =>
    rw [List.nil_append, keepBy, List.mem_cons]
    rw [List.reverse_nil, List.nil_append] at hbest
    rw [hbest, if_pos (by omega)]
    exact Or.inl rfl
  | cons first left ih =>
    rw [List.cons_append, keepBy, List.mem_cons]
    apply Or.inr
    apply ih
    rw [List.reverse_cons, List.append_assoc, List.singleton_append] at hbest
    exact hbest

end KeepBy

/-- The first kept die. -/
theorem exists_first_kept {dice : List Die} (h : ∃ die ∈ dice, die.dropped = false) :
    ∃ left die right, dice = left ++ die :: right ∧ die.dropped = false ∧
      ∀ other ∈ left, other.dropped = true := by
  induction dice with
  | nil =>
    obtain ⟨die, hdie, -⟩ := h
    cases hdie
  | cons first rest ih =>
    cases hfirst : first.dropped with
    | false =>
      refine ⟨[], first, rest, rfl, hfirst, ?_⟩
      intro other hother
      cases hother
    | true =>
      have hrest : ∃ die ∈ rest, die.dropped = false := by
        obtain ⟨die, hdie, hkept⟩ := h
        rcases List.mem_cons.mp hdie with rfl | hmem
        · cases hkept.symm.trans hfirst
        · exact ⟨die, hmem, hkept⟩
      obtain ⟨left, die, right, rfl, hkept, hleft⟩ := ih hrest
      refine ⟨first :: left, die, right, rfl, hkept, ?_⟩
      intro other hother
      rcases List.mem_cons.mp hother with rfl | hmem
      · exact hfirst
      · exact hleft other hmem

/-- The last kept die. -/
theorem exists_last_kept {dice : List Die} (h : ∃ die ∈ dice, die.dropped = false) :
    ∃ left die right, dice = left ++ die :: right ∧ die.dropped = false ∧
      ∀ other ∈ right, other.dropped = true := by
  obtain ⟨die, hdie, hkept⟩ := h
  obtain ⟨left, last, right, hsplit, hlast, hdropped⟩ :=
    exists_first_kept ⟨die, List.mem_reverse.mpr hdie, hkept⟩
  refine ⟨right.reverse, last, left.reverse, ?_, hlast, ?_⟩
  · rw [← List.reverse_reverse dice, hsplit, List.reverse_append, List.reverse_cons,
      List.append_assoc, List.singleton_append]
  · intro other hother
    exact hdropped other (List.mem_reverse.mp hother)

theorem countP_hits_of_noHit {dice : List Die} {test : Nat → Bool}
    (h : ∀ die ∈ dice, die.hits test = false) : dice.countP (Die.hits test) = 0 := by
  rw [List.countP_eq_zero]
  intro die hdie
  exact Bool.eq_false_iff.mp (h die hdie)

/-- No dropped die is counted. -/
theorem countP_hits_of_dropped {dice : List Die} (h : ∀ die ∈ dice, die.dropped = true)
    (test : Nat → Bool) : dice.countP (Die.hits test) = 0 := by
  apply countP_hits_of_noHit
  intro die hdie
  rw [Die.hits, h die hdie, Bool.not_true, Bool.false_and]

/-- Some dice are kept, and all that are kept have one value. -/
structure KeptShow (v : Nat) (dice : List Die) : Prop where
  /-- Some die is kept. -/
  some : ∃ die ∈ dice, die.dropped = false
  /-- Every kept die has the value. -/
  equal : ∀ die ∈ dice, die.dropped = false → die.value = v

namespace Modifier

/-- What a modifier that hits no die makes of the dice. -/
structure Leaves (m : Modifier) (dice dice' : List Die) : Prop where
  /-- Their number stays. -/
  length : dice'.length = dice.length
  /-- Every kept die was kept and has its new value. -/
  kept : ∀ die' ∈ dice', die'.dropped = false →
    ∃ die ∈ dice, die.dropped = false ∧ m.after die.value = some die'.value
  /-- Of kept dice that are all equal some stay, unless all are dropped. -/
  remains : ∀ v, m.after v ≠ none → KeptShow v dice → ∃ die' ∈ dice', die'.dropped = false

/-- Dice that are left alone are left alone. -/
theorem leaves_refl {m : Modifier} (hm : ∀ v, m.after v = some v) (dice : List Die) :
    m.Leaves dice dice where
  length := rfl
  kept die hdie hkept := ⟨die, hdie, hkept, hm die.value⟩
  remains _ _ hkept := hkept.some

/-- Equal dice stay equal, with the new value. -/
theorem Leaves.keptShow {m : Modifier} {dice dice' : List Die} (h : m.Leaves dice dice')
    {v w : Nat} (hafter : m.after v = some w) (hdice : KeptShow v dice) : KeptShow w dice' := by
  have hsome : m.after v ≠ none := by
    rw [hafter]
    exact Option.some_ne_none w
  refine ⟨h.remains v hsome hdice, ?_⟩
  intro die' hdie' hkept
  obtain ⟨die, hdie, hdropped, hvalue⟩ := h.kept die' hdie' hkept
  rw [hdice.equal die hdie hdropped, hafter] at hvalue
  exact (Option.some.inj hvalue).symm

/-- Keeping the best dice keeps one of equal dice, if among them some kept die has none better. -/
theorem leaves_keepBy {m : Modifier} {better : (before : List Die) → Die → (rest : List Die) → Nat}
    {n : Nat} (hm : ∀ v, m.after v = if n = 0 then none else some v) {dice : List Die}
    (hbest : ∀ v, KeptShow v dice →
      ∃ left die right, dice = left ++ die :: right ∧ die.dropped = false ∧
        better left.reverse die right = 0) :
    m.Leaves dice (keepBy better n [] dice) := by
  refine ⟨length_keepBy better n [] dice, ?_, ?_⟩
  · intro die hdie hkept
    obtain ⟨hmem, hn⟩ := mem_of_mem_keepBy better n hdie hkept
    refine ⟨die, hmem, hkept, ?_⟩
    rw [hm, if_neg hn]
  · intro v hafter hdice
    have hn : n ≠ 0 := by
      intro hzero
      apply hafter
      rw [hm, if_pos hzero]
    obtain ⟨left, die, right, hsplit, hdie, hnone⟩ := hbest v hdice
    rw [hsplit]
    rw [← List.append_nil left.reverse] at hnone
    exact ⟨die, mem_keepBy_of_best better n hn hnone, hdie⟩

/-- Of equal dice the last kept one has none higher. -/
theorem leaves_keepHighest (n : Nat) (dice : List Die) :
    (keepHighest n).Leaves dice (DiceBot.keepHighest n [] dice) := by
  rw [keepHighest_eq_keepBy]
  apply leaves_keepBy fun v => rfl
  intro v hdice
  obtain ⟨left, die, right, rfl, hdie, hright⟩ := exists_last_kept hdice.some
  refine ⟨left, die, right, rfl, hdie, ?_⟩
  have hleft : left.countP (Die.hits (Nat.blt die.value)) = 0 := by
    rw [List.countP_eq_zero]
    intro other hother hhits
    rw [Die.hits, Bool.and_eq_true, Bool.not_eq_true', Nat.blt_eq] at hhits
    have hvalue := hdice.equal die (List.mem_append_right left List.mem_cons_self) hdie
    have hother := hdice.equal other (List.mem_append_left _ hother) hhits.1
    omega
  rw [higher, List.countP_reverse, hleft, countP_hits_of_dropped hright]

/-- Of equal dice the first kept one has none lower. -/
theorem leaves_keepLowest (n : Nat) (dice : List Die) :
    (keepLowest n).Leaves dice (DiceBot.keepLowest n [] dice) := by
  rw [keepLowest_eq_keepBy]
  apply leaves_keepBy fun v => rfl
  intro v hdice
  obtain ⟨left, die, right, rfl, hdie, hleft⟩ := exists_first_kept hdice.some
  refine ⟨left, die, right, rfl, hdie, ?_⟩
  have hright : right.countP (Die.hits fun value => Nat.blt value die.value) = 0 := by
    rw [List.countP_eq_zero]
    intro other hother hhits
    rw [Die.hits, Bool.and_eq_true, Bool.not_eq_true', Nat.blt_eq] at hhits
    have hvalue := hdice.equal die (List.mem_append_right left List.mem_cons_self) hdie
    have hlater := List.mem_append_right left (List.mem_cons_of_mem die hother)
    have hother := hdice.equal other hlater hhits.1
    omega
  rw [DiceBot.lower, List.countP_reverse, hright, countP_hits_of_dropped hleft]

/-- Moving values to a bound drops no die. -/
theorem leaves_adjust {m : Modifier} (test : Nat → Bool) (bound : Nat)
    (hm : ∀ v, m.after v = some (if test v then v else bound)) (dice : List Die) :
    m.Leaves dice (dice.map (Die.adjust test bound)) := by
  have hdropped : ∀ die : Die, (die.adjust test bound).dropped = die.dropped := by
    intro die
    rw [Die.adjust]
    split <;> rfl
  refine ⟨List.length_map _, ?_, ?_⟩
  · intro die' hdie' hkept
    obtain ⟨die, hdie, rfl⟩ := List.mem_map.mp hdie'
    rw [hdropped] at hkept
    refine ⟨die, hdie, hkept, ?_⟩
    rw [hm, Die.adjust, hkept, Bool.false_or]
    split <;> rfl
  · intro v hafter hdice
    obtain ⟨die, hdie, hkept⟩ := hdice.some
    exact ⟨die.adjust test bound, List.mem_map_of_mem hdie, (hdropped die).trans hkept⟩

section

variable (roller : Roller) (rounds sides : Nat) (log : List Request)

/-- A round of rerolls that hits no die changes nothing. -/
theorem rerollRound_of_noHit {test : Nat → Bool} {dice : List Die}
    (h : ∀ die ∈ dice, die.hits test = false) :
    rerollRound roller sides test dice log = (dice, log) := by
  have hcount := countP_hits_of_noHit h
  have hmap : dice.map (fun die => if die.hits test then die.drop else die) = dice.map id := by
    apply List.map_congr_left
    intro die hdie
    rw [h die hdie, if_neg Bool.false_ne_true, id]
  rw [rerollRound, hcount, hmap, List.map_id, rollDice, List.append_nil]

/-- Rerolls that hit no die have come to their end. -/
theorem rerollUntilNone_of_noHit {test : Nat → Bool} {dice : List Die}
    (h : ∀ die ∈ dice, die.hits test = false) :
    rerollUntilNone roller sides test rounds dice log = (some dice, log) := by
  have hany : dice.any (Die.hits test) = false := by
    rw [List.any_eq_false]
    intro die hdie
    exact Bool.eq_false_iff.mp (h die hdie)
  unfold rerollUntilNone
  simp only [hany, Bool.false_eq_true, if_false]

/-- Rerolls that hit a die make a round and go on. -/
theorem rerollUntilNone_of_hit {test : Nat → Bool} {dice : List Die}
    (h : ∃ die ∈ dice, die.hits test = true) :
    rerollUntilNone roller sides test (rounds + 1) dice log =
      rerollUntilNone roller sides test rounds (rerollRound roller sides test dice log).1
        (rerollRound roller sides test dice log).2 := by
  have hany : dice.any (Die.hits test) = true := List.any_eq_true.mpr h
  conv => lhs; unfold rerollUntilNone
  simp only [hany, if_true]

end

/-- Raising to a bound and lowering to it leave a value alone or make it the bound. -/
theorem max_min_eq_ite (v n : Nat) :
    max v n = (if Nat.ble n v then v else n) ∧ min v n = if Nat.ble v n then v else n := by
  simp only [Nat.ble_eq]
  constructor <;> split <;> omega

/-- A modifier that hits no die rolls none. -/
theorem apply_of_noHit {sides : Nat} {m : Modifier} {dice : List Die}
    (h : ∀ die ∈ dice, die.hits (m.hits sides) = false) :
    ∃ dice', m.Leaves dice dice' ∧
      ∀ roller rounds log, m.apply roller rounds sides dice log = (some dice', log) := by
  have hcount := countP_hits_of_noHit h
  cases m with
  | reroll untilNone c =>
    refine ⟨dice, leaves_refl (fun v => rfl) dice, ?_⟩
    intro roller rounds log
    cases untilNone with
    | false =>
      have hround : rerollRound roller sides c.holds dice log = (dice, log) :=
        rerollRound_of_noHit roller sides log h
      rw [apply, hround]
    | true => exact rerollUntilNone_of_noHit roller rounds sides log h
  | explode untilNone c =>
    refine ⟨dice, leaves_refl (fun v => rfl) dice, ?_⟩
    intro roller rounds log
    have hnone : dice.countP (Die.hits (explosionTest sides c)) = 0 := hcount
    cases untilNone with
    | false => rw [apply, hnone, rollDice, List.append_nil]
    | true => rw [apply, hnone, explodeUntilNone]
  | keepHighest n => exact ⟨_, leaves_keepHighest n dice, fun roller rounds log => rfl⟩
  | keepLowest n => exact ⟨_, leaves_keepLowest n dice, fun roller rounds log => rfl⟩
  | raiseTo n =>
    refine ⟨_, leaves_adjust (Nat.ble n) n ?_ dice, fun roller rounds log => rfl⟩
    intro v
    rw [after, (max_min_eq_ite v n).1]
  | lowerTo n =>
    refine ⟨_, leaves_adjust (Nat.ble · n) n ?_ dice, fun roller rounds log => rfl⟩
    intro v
    rw [after, (max_min_eq_ite v n).2]

end Modifier

end DiceBot
