import DiceBot.Proofs.Dice.Positions
import DiceBot.Proofs.Dice.Rolling
import DiceBot.Proofs.Dice.Writing

/-!
# The library keeps its laws

The reader reads the grammar, and rolling goes through an expression from left to right. Without
modifiers a term rolls the dice that it asks for, no more and no fewer, so the faces rolled for an
expression are those of a run of dice, one after another.
-/

namespace DiceBot

/-- What is read is an expression in which every dice term has its faces. -/
theorem Notation.read?_eq_some_iff {t : Text} {e : Arith Dice} :
    read? t = some e ↔ IsRollable t e := by
  rw [read?, Option.bind_eq_some_iff]
  exact exists_congr fun _ => and_congr_left fun _ => readOpen?_eq_some_iff

/-- All libraries that keep the laws read alike. -/
theorem DiceLibrary.Lawful.read?_eq {library : DiceLibrary} (laws : library.Lawful) (t : Text) :
    library.read? t = Notation.read? t :=
  Option.ext fun _ => laws.read?_eq_some_iff.trans Notation.read?_eq_some_iff.symm

/-- A term without modifiers is rolled as a run of dice. -/
theorem Dice.roll_of_plain {d : Dice} (hd : d.modifiers = []) (answer : Nat → Request → Int)
    (rounds : Nat) (log : List Request) :
    d.roll (.ofAnswers answer) rounds log =
      (.ok (d.rolledAt answer log.length), log ++ d.requests) := by
  rw [roll, hd, rollDice_ofAnswers, applyModifiers, rolledAt, requests]

namespace Arith

theorem requests_binary (op : Operator) (l r : Arith Dice) :
    requests (binary op l r) = l.requests ++ r.requests := List.flatMap_append

/-- A plain expression rolls what it asks for. The induction is on the expression; the dice of a
right operand come after those of the left one. -/
theorem roll_of_isPlain (answer : Nat → Request → Int) (rounds : Nat) {e : Arith Dice}
    (log : List Request) (he : e.IsPlain) :
    ∃ r : RolledArith, e.roll (.ofAnswers answer) rounds log = (.ok r, log ++ e.requests) ∧
      r.IsRollOf e (e.requests.mapIdx fun i request =>
        .fresh (request.face (answer (log.length + i) request))) ∧
      ∀ d ∈ r.leaves, ∃ position, d = d.dice.rolledAt answer position := by
  induction e generalizing log with
  | number n =>
    exact ⟨.number n, Prod.ext rfl (List.append_nil log).symm, ⟨rfl, rfl, by simp [leaves]⟩,
      by simp [leaves]⟩
  | dice d =>
    have hd := he d List.mem_cons_self
    refine ⟨.dice (d.rolledAt answer log.length), ?_, ⟨rfl, ?_, ?_⟩, ?_⟩
    · rw [roll, Dice.roll_of_plain hd, requests, leaves, List.flatMap_singleton]
      rfl
    · simp [leaves, requests, Dice.rolledAt]
    · simp [leaves, Dice.rolledAt, Dice.requests]
    · simp only [leaves, List.mem_singleton, forall_eq]
      exact ⟨log.length, rfl⟩
  | negate e ih =>
    obtain ⟨r, hroll, hr, hfaces⟩ := ih log he
    refine ⟨.negate r, ?_, ⟨?_, hr.faces, hr.length⟩, hfaces⟩
    · rw [roll, hroll]
      rfl
    · rw [map, hr.dice]
  | binary op l r ihl ihr =>
    obtain ⟨l', hl, hlr, hlfaces⟩ := ihl log fun d hd => he d (List.mem_append_left _ hd)
    obtain ⟨r', hr, hrr, hrfaces⟩ := ihr (log ++ l.requests) fun d hd =>
      he d (List.mem_append_right _ hd)
    refine ⟨.binary op l' r', ?_, ⟨?_, ?_, ?_⟩, ?_⟩
    · simp only [roll, hl, hr, requests_binary, List.append_assoc]
      rfl
    · rw [map, hlr.dice, hrr.dice]
    · have hshift : ∀ j, (log ++ l.requests).length + j = log.length + (j + l.requests.length) :=
        fun j => by rw [List.length_append]; omega
      rw [leaves, List.flatMap_append, hlr.faces, hrr.faces, requests_binary, List.mapIdx_append]
      simp only [hshift]
    · intro d hd
      exact (List.mem_append.mp hd).elim (hlr.length d) (hrr.length d)
    · intro d hd
      exact (List.mem_append.mp hd).elim (hlfaces d) (hrfaces d)

end Arith

/-- The answers that make a script of possible faces appear. -/
def Script.answer (script : Script) (position : Nat) (_ : Request) : Int :=
  ((script[position]?).map Prod.snd).getD 1

/-- A script of possible faces does appear. -/
theorem Script.isShown_answer {script : Script} (h : script.IsPossible) :
    script.IsShown script.answer 0 := by
  intro i s f hi
  obtain ⟨hlow, hhigh⟩ := h s f (List.mem_of_getElem? hi)
  rw [Nat.zero_add, Script.answer, hi, Option.map_some, Option.getD_some]
  simp only [Request.face, Request.clamp, Request.forDie]
  omega

/-- The library keeps its laws, whatever it says of texts that it cannot read. -/
theorem Notation.library_lawful (explanation : Text) : (library explanation).Lawful where
  read?_eq_some_iff := read?_eq_some_iff
  roll_from answer rounds e log := Arith.roll_ofAnswers_eq answer rounds e log
  roll_plain answer rounds _ log he := Arith.roll_of_isPlain answer rounds log he
  roll_within answer rounds _ log he := Arith.length_roll_log_le he answer rounds log
  roll_beyond := by
    intro e he
    obtain ⟨script, r, hpossible, hmakes, hasked, hadd⟩ := Arith.exists_roll_makes he
    refine ⟨script.answer, r, script.requests, ?_, ?_, ?_⟩
    · intro rounds
      exact hmakes script.answer rounds [] (Script.isShown_answer hpossible)
    · rw [Script.length_requests]
      exact hasked
    · rw [Script.length_requests]
      exact hadd
  total_dice h := if_pos h

end DiceBot
