import Mathlib.Algebra.GroupWithZero.Nat
import DiceBot.Proofs.Dice.Modifiers

/-!
# How many dice are rolled

Where no face leads to a further die, a term rolls exactly the dice that it asks for. Where one
does, all its dice may show that face, and if every modifier can end there are further faces with
which rolling comes to an end. Such faces are collected in a script, which a source may follow.
-/

namespace DiceBot

/-- A source is asked for each die once, in order, and its answers are the faces. -/
theorem rollDice_ofAnswers (answer : Nat → Request → Int) (sides count : Nat)
    (log : List Request) :
    rollDice (.ofAnswers answer) sides count log =
      ((List.replicate count (Request.forDie sides)).mapIdx fun i request =>
          .fresh (request.face (answer (log.length + i) request)),
        log ++ List.replicate count (Request.forDie sides)) := by
  induction count generalizing log with
  | zero => simp [rollDice]
  | succ count ih =>
    have hshift : ∀ i, log.length + 1 + i = log.length + (i + 1) := fun i => by omega
    simp [rollDice, Roller.ofAnswers, ih, List.replicate_succ, List.mapIdx_cons, hshift]

/-- A die has a face, so one to be used in some case can be chosen before the case is known. -/
theorem exists_face_of_imp {sides : Nat} {p : Prop} {q : Nat → Prop}
    (h : p → ∃ f, 1 ≤ f ∧ f ≤ max sides 1 ∧ q f) : ∃ f, 1 ≤ f ∧ f ≤ max sides 1 ∧ (p → q f) := by
  by_cases hp : p
  · obtain ⟨f, hlow, hhigh, hf⟩ := h hp
    exact ⟨f, hlow, hhigh, fun _ => hf⟩
  · exact ⟨1, Nat.le_refl _, Nat.le_max_right _ _, fun hp' => absurd hp' hp⟩

/-- The dice of a script, each with its sides and the face it shows. -/
abbrev Script := List (Nat × Nat)

namespace Script

/-- The script of dice with equal sides. -/
def ofFaces (sides : Nat) (faces : List Nat) : Script := faces.map (Prod.mk sides)

/-- The requests for the dice of a script. -/
def requests (script : Script) : List Request := script.map fun die => .forDie die.1

/-- Whether every face of a script is one that its die may show. -/
def IsPossible (script : Script) : Prop := ∀ s f, (s, f) ∈ script → 1 ≤ f ∧ f ≤ max s 1

/-- Whether answers show a script from one of them on. -/
def IsShown (script : Script) (answer : Nat → Request → Int) (position : Nat) : Prop :=
  ∀ i s f, script[i]? = some (s, f) →
    (Request.forDie s).face (answer (position + i) (.forDie s)) = f

/-- Whether a run has a result and asks for the dice of a script, if it begins where the script is
shown. -/
def Makes {α : Type} (script : Script)
    (run : Roller → (rounds : Nat) → List Request → α × List Request) (result : α) : Prop :=
  ∀ answer rounds log, script.IsShown answer log.length →
    run (.ofAnswers answer) (rounds + 1) log = (result, log ++ script.requests)

/-- A script without dice is possible. -/
theorem isPossible_nil : IsPossible [] := fun _ _ hmem => absurd hmem List.not_mem_nil

/-- A script in two parts is possible if both are. -/
theorem isPossible_append {script script' : Script} :
    IsPossible (script ++ script') ↔ script.IsPossible ∧ script'.IsPossible := by
  simp only [IsPossible, List.mem_append]
  constructor
  · intro h
    exact ⟨fun s f hmem => h s f (Or.inl hmem), fun s f hmem => h s f (Or.inr hmem)⟩
  · rintro ⟨hleft, hright⟩ s f (hmem | hmem)
    · exact hleft s f hmem
    · exact hright s f hmem

/-- Equal dice may show one face that each of them may show. -/
theorem isPossible_replicate {sides f : Nat} (hlow : 1 ≤ f) (hhigh : f ≤ max sides 1)
    (count : Nat) : (ofFaces sides (List.replicate count f)).IsPossible := by
  intro s g hmem
  rw [ofFaces, List.map_replicate, List.mem_replicate, Prod.mk.injEq] at hmem
  obtain ⟨-, rfl, rfl⟩ := hmem
  exact ⟨hlow, hhigh⟩

@[simp] theorem length_ofFaces (sides : Nat) (faces : List Nat) :
    (ofFaces sides faces).length = faces.length := List.length_map _

@[simp] theorem length_requests (script : Script) : script.requests.length = script.length :=
  List.length_map _

theorem ofFaces_append (sides : Nat) (faces faces' : List Nat) :
    ofFaces sides (faces ++ faces') = ofFaces sides faces ++ ofFaces sides faces' := List.map_append

theorem requests_append (script script' : Script) :
    requests (script ++ script') = script.requests ++ script'.requests := List.map_append

/-- Equal dice are asked for in the same way. -/
theorem requests_ofFaces (sides : Nat) (faces : List Nat) :
    (ofFaces sides faces).requests = List.replicate faces.length (.forDie sides) := by
  rw [requests, ofFaces, List.map_map, ← List.map_const]
  rfl

/-- The two parts of a script are shown one after the other. -/
theorem isShown_append {script script' : Script} {answer : Nat → Request → Int} {position : Nat}
    (h : IsShown (script ++ script') answer position) :
    script.IsShown answer position ∧ script'.IsShown answer (position + script.length) := by
  constructor
  · intro i s f hi
    apply h
    rw [List.getElem?_append_left (List.getElem?_eq_some_iff.mp hi).1]
    exact hi
  · intro i s f hi
    rw [Nat.add_assoc]
    apply h
    rw [List.getElem?_append_right (Nat.le_add_right _ _), Nat.add_sub_cancel_left]
    exact hi

/-- The second part of a script is shown to a run that begins behind the first. -/
theorem isShown_append_requests {script script' : Script} {answer : Nat → Request → Int}
    {log : List Request} (h : IsShown (script ++ script') answer log.length) :
    script.IsShown answer log.length ∧
      script'.IsShown answer (log ++ script.requests).length := by
  rw [List.length_append, length_requests]
  exact isShown_append h

/-- Answers that show a script give its faces. -/
theorem rollDice_of_isShown {sides : Nat} {faces : List Nat} {answer : Nat → Request → Int}
    {log : List Request} (h : (ofFaces sides faces).IsShown answer log.length) :
    rollDice (.ofAnswers answer) sides faces.length log =
      (faces.map Die.fresh, log ++ (ofFaces sides faces).requests) := by
  rw [rollDice_ofAnswers, requests_ofFaces]
  congr 1
  apply List.ext_getElem?
  intro i
  rw [List.getElem?_mapIdx, List.getElem?_map]
  by_cases hi : i < faces.length
  · have hface : faces[i]? = some faces[i] := List.getElem?_eq_getElem hi
    have hshown := h i sides faces[i] (by rw [ofFaces, List.getElem?_map, hface, Option.map_some])
    rw [List.getElem?_replicate_of_lt hi, hface, Option.map_some, Option.map_some, hshown]
  · rw [List.getElem?_eq_none (by rw [List.length_replicate]; omega),
      List.getElem?_eq_none (by omega)]
    rfl

/-- Answers that show one face give equal dice. -/
theorem rollDice_of_isShown_replicate {sides count f : Nat} {answer : Nat → Request → Int}
    {log : List Request}
    (h : (ofFaces sides (List.replicate count f)).IsShown answer log.length) :
    rollDice (.ofAnswers answer) sides count log =
      (List.replicate count (Die.fresh f),
        log ++ (ofFaces sides (List.replicate count f)).requests) := by
  have hrolled := rollDice_of_isShown h
  rw [List.length_replicate, List.map_replicate] at hrolled
  exact hrolled

end Script

namespace Modifier

/-- A round of rerolls after which the new dice show one face. -/
theorem rerollRound_of_isShown {sides f : Nat} {test : Nat → Bool} {dice : List Die}
    {answer : Nat → Request → Int} {log : List Request}
    (h : (Script.ofFaces sides (List.replicate (dice.countP (Die.hits test)) f)).IsShown answer
      log.length) :
    rerollRound (.ofAnswers answer) sides test dice log =
      (dice.map (fun die => if die.hits test then die.drop else die) ++
          List.replicate (dice.countP (Die.hits test)) (Die.fresh f),
        log ++
          (Script.ofFaces sides (List.replicate (dice.countP (Die.hits test)) f)).requests) := by
  rw [rerollRound, Script.rollDice_of_isShown_replicate h]

/-- If the new dice of a round show a face that is not hit, no die is hit any more. -/
theorem noHit_of_rerolled {f : Nat} {test : Nat → Bool} (hf : test f = false) (dice : List Die)
    (count : Nat) :
    ∀ die ∈ dice.map (fun die => if die.hits test then die.drop else die) ++
      List.replicate count (Die.fresh f), die.hits test = false := by
  intro die hdie
  rcases List.mem_append.mp hdie with hold | hnew
  · obtain ⟨other, -, rfl⟩ := List.mem_map.mp hold
    cases hother : other.hits test with
    | true => rw [if_pos rfl, Die.hits, Die.drop, Bool.not_true, Bool.false_and]
    | false => rw [if_neg Bool.false_ne_true, hother]
  · rw [(List.mem_replicate.mp hnew).2, Die.hits, Die.fresh, hf, Bool.and_false]

/-- Rerolls that hit a die end after one round if its new dice do not hit. -/
theorem reroll_makes {sides f : Nat} {c : Condition} {untilNone : Bool} {dice : List Die}
    (hf : untilNone = true → c.holds f = false)
    (hhit : ∃ die ∈ dice, die.hits c.holds = true) :
    (Script.ofFaces sides (List.replicate (dice.countP (Die.hits c.holds)) f)).Makes
      (fun roller rounds => (reroll untilNone c).apply roller rounds sides dice)
      (some (dice.map (fun die => if die.hits c.holds then die.drop else die) ++
        List.replicate (dice.countP (Die.hits c.holds)) (Die.fresh f))) := by
  intro answer rounds log hshown
  have hround := rerollRound_of_isShown hshown
  cases untilNone with
  | false => simp only [apply, hround]
  | true =>
    simp only [apply, rerollUntilNone_of_hit _ _ _ _ hhit, hround]
    exact rerollUntilNone_of_noHit _ _ _ _ (noHit_of_rerolled (hf rfl) dice _)

/-- Explosions that hit a die end after one round if its new dice do not hit. -/
theorem explode_makes {sides f : Nat} {c : Option Condition} {untilNone : Bool} {dice : List Die}
    (hf : untilNone = true → explosionTest sides c f = false)
    (hhit : ∃ die ∈ dice, die.hits (explosionTest sides c) = true) :
    (Script.ofFaces sides
        (List.replicate (dice.countP (Die.hits (explosionTest sides c))) f)).Makes
      (fun roller rounds => (explode untilNone c).apply roller rounds sides dice)
      (some (dice ++
        List.replicate (dice.countP (Die.hits (explosionTest sides c))) (Die.fresh f))) := by
  intro answer rounds log hshown
  have hnew := Script.rollDice_of_isShown_replicate hshown
  cases untilNone with
  | false => simp only [apply, hnew]
  | true =>
    have hcount : dice.countP (Die.hits (explosionTest sides c)) ≠ 0 :=
      Nat.ne_of_gt (List.countP_pos_iff.mpr hhit)
    obtain ⟨count, hsucc⟩ := Nat.exists_eq_succ_of_ne_zero hcount
    have hnone : (List.replicate (count + 1) (Die.fresh f)).countP
        (Die.hits (explosionTest sides c)) = 0 := by
      apply countP_hits_of_noHit
      intro die hdie
      rw [(List.mem_replicate.mp hdie).2, Die.hits, Die.fresh, hf rfl, Bool.and_false]
    rw [hsucc] at hnew ⊢
    simp only [apply, hsucc, explodeUntilNone, hnew, hnone]

/-- A modifier that hits no value hits no die. -/
theorem not_hit_of_hits_eq_false {test : Nat → Bool} (h : ∀ v, test v = false) {dice : List Die} :
    ¬∃ die ∈ dice, die.hits test = true := by
  rintro ⟨die, -, hdie⟩
  rw [Die.hits, h, Bool.and_false] at hdie
  cases hdie

/-- A modifier that hits a die and can end rolls further dice and ends, if these show the right
faces. -/
theorem exists_makes_of_hit {sides : Nat} {m : Modifier} (hm : m.CanEnd sides) {dice : List Die}
    (hhit : ∃ die ∈ dice, die.hits (m.hits sides) = true) :
    ∃ faces dice', (Script.ofFaces sides faces).IsPossible ∧ faces ≠ [] ∧
      (Script.ofFaces sides faces).Makes
        (fun roller rounds => m.apply roller rounds sides dice) (some dice') := by
  have hcount : 0 < dice.countP (Die.hits (m.hits sides)) := List.countP_pos_iff.mpr hhit
  obtain ⟨f, hlow, hhigh, hf⟩ := exists_face_of_imp hm.2
  have hpossible := Script.isPossible_replicate hlow hhigh (dice.countP (Die.hits (m.hits sides)))
  have hne : List.replicate (dice.countP (Die.hits (m.hits sides))) f ≠ [] := by
    rw [ne_eq, List.replicate_eq_nil_iff]
    omega
  cases m with
  | reroll untilNone c => exact ⟨_, _, hpossible, hne, reroll_makes hf hhit⟩
  | explode untilNone c => exact ⟨_, _, hpossible, hne, explode_makes hf hhit⟩
  | keepHighest n => exact absurd hhit (not_hit_of_hits_eq_false fun v => rfl)
  | keepLowest n => exact absurd hhit (not_hit_of_hits_eq_false fun v => rfl)
  | raiseTo n => exact absurd hhit (not_hit_of_hits_eq_false fun v => rfl)
  | lowerTo n => exact absurd hhit (not_hit_of_hits_eq_false fun v => rfl)

/-- What follows from a modifier that rolls no further die for a value. -/
theorem mayAdd_cons_eq_false {sides : Nat} {m : Modifier} {ms : List Modifier} {v : Nat}
    (hm : m.isEndless sides = false) (h : mayAdd sides (m :: ms) v = false) :
    m.hits sides v = false ∧ ∀ w, m.after v = some w → mayAdd sides ms w = false := by
  rw [mayAdd, hm, Bool.not_false, Bool.true_and, Bool.or_eq_false_iff] at h
  refine ⟨h.1, ?_⟩
  intro w hw
  have hrest := h.2
  rw [hw] at hrest
  exact hrest

/-- If modifiers roll a further die for a value that the first of them does not hit, the others do
for the new value. -/
theorem exists_after_of_mayAdd_cons {sides : Nat} {m : Modifier} {ms : List Modifier} {v : Nat}
    (hhit : m.hits sides v = false) (h : mayAdd sides (m :: ms) v = true) :
    ∃ w, m.after v = some w ∧ mayAdd sides ms w = true := by
  rw [mayAdd, hhit, Bool.false_or, Bool.and_eq_true] at h
  cases hafter : m.after v with
  | none =>
    rw [hafter] at h
    cases h.2
  | some w =>
    rw [hafter] at h
    exact ⟨w, rfl, h.2⟩

end Modifier

namespace Dice

/-- Dice can roll more than they ask for if they are dice and some face makes them. -/
theorem canAdd_iff {d : Dice} :
    d.canAdd = true ↔ d.count ≠ 0 ∧ ∃ v, 1 ≤ v ∧ v ≤ max d.sides 1 ∧
      Modifier.mayAdd d.sides d.modifiers v = true := by
  rw [canAdd, Bool.and_eq_true, bne_iff_ne, List.any_eq_true]
  apply and_congr_right
  intro _
  constructor
  · rintro ⟨i, hi, hadd⟩
    exact ⟨i + 1, Nat.succ_pos i, List.mem_range.mp hi, hadd⟩
  · rintro ⟨v, hlow, hhigh, hadd⟩
    refine ⟨v - 1, List.mem_range.mpr (by omega), ?_⟩
    rw [Nat.sub_add_cancel hlow]
    exact hadd

/-- Modifiers that roll no die for any kept die roll none at all. The induction is on the modifiers,
and the values that the kept dice have are the values to follow. -/
theorem applyModifiers_log (roller : Roller) (rounds : Nat) (d : Dice) (ms : List Modifier)
    (faces : List Die) (log : List Request)
    (h : ∀ die ∈ faces, die.dropped = false → Modifier.mayAdd d.sides ms die.value = false) :
    (d.applyModifiers roller rounds ms faces log).2 = log := by
  induction ms generalizing faces with
  | nil => rfl
  | cons m ms ih =>
    rw [applyModifiers]
    cases hendless : m.isEndless d.sides with
    | true => rfl
    | false =>
      have hnext : ∀ die ∈ faces, die.dropped = false → m.hits d.sides die.value = false ∧
          ∀ w, m.after die.value = some w → Modifier.mayAdd d.sides ms w = false :=
        fun die hdie hkept => Modifier.mayAdd_cons_eq_false hendless (h die hdie hkept)
      have hhit : ∀ die ∈ faces, die.hits (m.hits d.sides) = false := by
        intro die hdie
        cases hdropped : die.dropped with
        | true => rw [Die.hits, hdropped, Bool.not_true, Bool.false_and]
        | false => rw [Die.hits, (hnext die hdie hdropped).1, Bool.and_false]
      obtain ⟨faces', hleaves, happly⟩ := Modifier.apply_of_noHit hhit
      rw [if_neg Bool.false_ne_true, happly]
      apply ih
      intro die' hdie' hkept
      obtain ⟨die, hdie, hdropped, hafter⟩ := hleaves.kept die' hdie' hkept
      exact (hnext die hdie hdropped).2 die'.value hafter

/-- Dice that no face makes roll more roll what they ask for. -/
theorem roll_log_of_not_canAdd {d : Dice} (hd : d.canAdd = false)
    (answer : Nat → Request → Int) (rounds : Nat) (log : List Request) :
    (d.roll (.ofAnswers answer) rounds log).2 = log ++ d.requests := by
  rw [roll, rollDice_ofAnswers, applyModifiers_log, requests]
  intro die hdie _
  obtain ⟨i, hi, rfl⟩ := List.mem_mapIdx.mp hdie
  obtain ⟨hlow, hhigh⟩ := Request.face_forDie_range d.sides
    (answer (log.length + i) (.forDie d.sides))
  rw [List.getElem_replicate, Bool.eq_false_iff]
  intro hadd
  have hcount : d.count ≠ 0 := by
    rw [List.length_replicate] at hi
    omega
  have hcan := canAdd_iff.mpr ⟨hcount, _, hlow, hhigh, hadd⟩
  rw [hd] at hcan
  cases hcan

/-- Modifiers come to an end if the first does and the others do on what it leaves. -/
theorem applyModifiers_cons_makes {d : Dice} {m : Modifier} {ms : List Modifier}
    {dice dice' : List Die} {script script' : Script} {r : RolledDice}
    (hm : m.isEndless d.sides = false)
    (hfirst : script.Makes (fun roller rounds => m.apply roller rounds d.sides dice)
      (some dice'))
    (hrest : script'.Makes (fun roller rounds => d.applyModifiers roller rounds ms dice')
      (.ok r)) :
    (script ++ script').Makes (fun roller rounds => d.applyModifiers roller rounds (m :: ms) dice)
      (.ok r) := by
  intro answer rounds log hshown
  obtain ⟨hscript, hscript'⟩ := Script.isShown_append_requests hshown
  have happly := hfirst answer rounds log hscript
  simp only [applyModifiers, hm, Bool.false_eq_true, if_false, happly]
  rw [Script.requests_append, ← List.append_assoc]
  exact hrest answer rounds _ hscript'

/-- Modifiers that can all end do end if further dice show the right faces, and there are further
dice if the kept dice are equal and their value leads to one. The induction is on the modifiers: the
first that hits rolls, and those before it leave equal dice equal. -/
theorem exists_applyModifiers_makes (d : Dice) {ms : List Modifier}
    (hms : ∀ m ∈ ms, m.CanEnd d.sides) (dice : List Die) :
    ∃ faces r, (Script.ofFaces d.sides faces).IsPossible ∧
      (Script.ofFaces d.sides faces).Makes
        (fun roller rounds => d.applyModifiers roller rounds ms dice) (.ok r) ∧
      ∀ v, KeptShow v dice → Modifier.mayAdd d.sides ms v = true → faces ≠ [] := by
  induction ms generalizing dice with
  | nil =>
    refine ⟨[], ⟨d, dice⟩, Script.isPossible_nil, ?_, fun v _ hadd => by cases hadd⟩
    intro answer rounds log _
    exact Prod.ext rfl (List.append_nil log).symm
  | cons m ms ih =>
    have hm := hms m List.mem_cons_self
    have hrest := ih fun m hmem => hms m (List.mem_cons_of_mem _ hmem)
    by_cases hhit : ∃ die ∈ dice, die.hits (m.hits d.sides) = true
    · obtain ⟨faces, dice', hpossible, hne, hmakes⟩ := Modifier.exists_makes_of_hit hm hhit
      obtain ⟨faces', r, hpossible', hmakes', -⟩ := hrest dice'
      refine ⟨faces ++ faces', r, ?_, ?_, ?_⟩
      · rw [Script.ofFaces_append]
        exact Script.isPossible_append.mpr ⟨hpossible, hpossible'⟩
      · rw [Script.ofFaces_append]
        exact applyModifiers_cons_makes hm.1 hmakes hmakes'
      · exact fun v _ _ => List.append_ne_nil_of_left_ne_nil hne faces'
    · have hnoHit : ∀ die ∈ dice, die.hits (m.hits d.sides) = false :=
        fun die hdie => Bool.eq_false_iff.mpr fun h => hhit ⟨die, hdie, h⟩
      obtain ⟨dice', hleaves, happly⟩ := Modifier.apply_of_noHit hnoHit
      have hmakes : Script.Makes [] (fun roller rounds => m.apply roller rounds d.sides dice)
          (some dice') := by
        intro answer rounds log _
        simp only [happly, Script.requests, List.map_nil, List.append_nil]
      obtain ⟨faces, r, hpossible, hmakes', hadds⟩ := hrest dice'
      refine ⟨faces, r, hpossible, applyModifiers_cons_makes hm.1 hmakes hmakes', ?_⟩
      intro v hdice hadd
      have hv : m.hits d.sides v = false := by
        obtain ⟨die, hdie, hdropped⟩ := hdice.some
        have hdieHits := hnoHit die hdie
        rw [Die.hits, hdropped, Bool.not_false, Bool.true_and,
          hdice.equal die hdie hdropped] at hdieHits
        exact hdieHits
      obtain ⟨w, hafter, hadd'⟩ := Modifier.exists_after_of_mayAdd_cons hv hadd
      exact hadds w (hleaves.keptShow hafter hdice) hadd'

/-- Dice come to an end if their modifiers do on what is rolled first. -/
theorem roll_makes {d : Dice} {v : Nat} {script : Script} {r : RolledDice}
    (h : script.Makes (fun roller rounds =>
      d.applyModifiers roller rounds d.modifiers (List.replicate d.count (Die.fresh v)))
      (.ok r)) :
    (Script.ofFaces d.sides (List.replicate d.count v) ++ script).Makes
      (fun roller rounds => d.roll roller rounds) (.ok r) := by
  intro answer rounds log hshown
  obtain ⟨hfirst, hsecond⟩ := Script.isShown_append_requests hshown
  simp only [roll, Script.rollDice_of_isShown_replicate hfirst]
  rw [Script.requests_append, ← List.append_assoc]
  exact h answer rounds _ hsecond

/-- Dice whose modifiers can all end have faces with which rolling ends, and if some face makes them
roll more than they ask for, faces with which they do. -/
theorem exists_roll_makes {d : Dice} (hd : d.CanEnd) :
    ∃ (script : Script) (r : RolledDice), script.IsPossible ∧
      script.Makes (fun roller rounds => d.roll roller rounds) (.ok r) ∧
      d.count ≤ script.length ∧ (d.canAdd = true → d.count < script.length) := by
  obtain ⟨v, hlow, hhigh, hv⟩ := exists_face_of_imp fun hcan => (canAdd_iff.mp hcan).2
  obtain ⟨faces, r, hpossible, hmakes, hadds⟩ :=
    exists_applyModifiers_makes d hd (List.replicate d.count (Die.fresh v))
  refine ⟨_, r, Script.isPossible_append.mpr
    ⟨Script.isPossible_replicate hlow hhigh d.count, hpossible⟩, roll_makes hmakes, ?_, ?_⟩
  · rw [List.length_append, Script.length_ofFaces, List.length_replicate]
    omega
  · intro hcan
    have hshow : KeptShow v (List.replicate d.count (Die.fresh v)) := by
      refine ⟨⟨Die.fresh v, List.mem_replicate.mpr ⟨(canAdd_iff.mp hcan).1, rfl⟩, rfl⟩, ?_⟩
      intro die hdie _
      rw [(List.mem_replicate.mp hdie).2, Die.fresh]
    have hmore := List.length_pos_iff.mpr (hadds v hshow (hv hcan))
    rw [List.length_append, Script.length_ofFaces, Script.length_ofFaces, List.length_replicate]
    omega

end Dice

namespace Arith

theorem diceAsked_binary (op : Operator) (l r : Arith Dice) :
    diceAsked (binary op l r) = l.diceAsked + r.diceAsked := by
  rw [diceAsked, leaves, List.map_append, List.sum_append, diceAsked, diceAsked]

/-- An expression in which no face makes any term roll more than it asks for rolls at most the dice
that it asks for, and fewer only if a term before the last is at fault. -/
theorem length_roll_log_le {e : Arith Dice} (he : ∀ d ∈ e.leaves, d.canAdd = false)
    (answer : Nat → Request → Int) (rounds : Nat) (log : List Request) :
    (e.roll (.ofAnswers answer) rounds log).2.length ≤ log.length + e.diceAsked := by
  induction e generalizing log with
  | number n => exact Nat.le_add_right _ _
  | dice d =>
    have hlog := Dice.roll_log_of_not_canAdd (he d List.mem_cons_self) answer rounds log
    rw [Arith.roll, hlog, List.length_append, Dice.requests, List.length_replicate]
    exact Nat.le_refl _
  | negate e ih => exact ih he log
  | binary op l r ihl ihr =>
    have hl := ihl (fun d hd => he d (List.mem_append_left _ hd)) log
    have hr := ihr (fun d hd => he d (List.mem_append_right _ hd))
    rw [Arith.roll, diceAsked_binary]
    split
    · next hroll =>
      rw [hroll] at hl
      dsimp only at hl ⊢
      omega
    · next log' hroll =>
      rw [hroll] at hl
      have := hr log'
      dsimp only at hl ⊢
      omega

/-- A sum, or any other binary expression, comes to an end if both its sides do. -/
theorem binary_makes {op : Operator} {l r : Arith Dice} {script script' : Script}
    {l' r' : RolledArith} (hl : script.Makes (fun roller rounds => l.roll roller rounds) (.ok l'))
    (hr : script'.Makes (fun roller rounds => r.roll roller rounds) (.ok r')) :
    (script ++ script').Makes (fun roller rounds => (binary op l r).roll roller rounds)
      (.ok (binary op l' r')) := by
  intro answer rounds log hshown
  obtain ⟨hfirst, hsecond⟩ := Script.isShown_append_requests hshown
  simp only [Arith.roll, hl answer rounds log hfirst, hr answer rounds _ hsecond]
  rw [Script.requests_append, List.append_assoc]
  rfl

/-- An expression whose modifiers can all end has faces with which rolling ends, and if some face
makes a term roll more than it asks for, faces with which it does. -/
theorem exists_roll_makes {e : Arith Dice} (he : ∀ d ∈ e.leaves, d.CanEnd) :
    ∃ (script : Script) (r : RolledArith), script.IsPossible ∧
      script.Makes (fun roller rounds => e.roll roller rounds) (.ok r) ∧
      e.diceAsked ≤ script.length ∧
      ((∃ d ∈ e.leaves, d.canAdd = true) → e.diceAsked < script.length) := by
  induction e with
  | number n =>
    refine ⟨[], number n, Script.isPossible_nil, ?_, Nat.le_refl 0, ?_⟩
    · intro answer rounds log _
      exact Prod.ext rfl (List.append_nil log).symm
    · rintro ⟨d, hd, -⟩
      cases hd
  | dice d =>
    obtain ⟨script, r, hpossible, hmakes, hcount, hadd⟩ :=
      Dice.exists_roll_makes (he d List.mem_cons_self)
    refine ⟨script, dice r, hpossible, ?_, hcount, ?_⟩
    · intro answer rounds log hshown
      simp only [Arith.roll, hmakes answer rounds log hshown]
      rfl
    · rintro ⟨d', hd', hcan⟩
      obtain rfl := List.mem_singleton.mp hd'
      exact hadd hcan
  | negate e ih =>
    obtain ⟨script, r, hpossible, hmakes, hcount, hadd⟩ := ih he
    refine ⟨script, negate r, hpossible, ?_, hcount, hadd⟩
    intro answer rounds log hshown
    simp only [Arith.roll, hmakes answer rounds log hshown]
    rfl
  | binary op l r ihl ihr =>
    obtain ⟨script, l', hpossible, hmakes, hcount, hadd⟩ :=
      ihl fun d hd => he d (List.mem_append_left _ hd)
    obtain ⟨script', r', hpossible', hmakes', hcount', hadd'⟩ :=
      ihr fun d hd => he d (List.mem_append_right _ hd)
    refine ⟨script ++ script', binary op l' r',
      Script.isPossible_append.mpr ⟨hpossible, hpossible'⟩, binary_makes hmakes hmakes', ?_, ?_⟩
    · rw [diceAsked_binary, List.length_append]
      omega
    · rintro ⟨d, hd, hcan⟩
      rw [diceAsked_binary, List.length_append]
      rcases List.mem_append.mp hd with hleft | hright
      · have := hadd ⟨d, hleft, hcan⟩
        omega
      · have := hadd' ⟨d, hright, hcan⟩
        omega

end Arith

end DiceBot
