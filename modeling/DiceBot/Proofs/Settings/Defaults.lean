import DiceBot.Settings.Document

/-!
# Defaults of a document

The numbers that the evaluator is told are completed while a document is read: each is the number
that the document gives in its place, or the standard one exactly where the document gives nothing
there, whether the field, the table around it or the whole section is missing.
-/

namespace DiceBot

/-- Whether a setting is the value given, or the standard one if none is given. -/
inductive Filled {α : Type} (standard : α) : Option α → α → Prop
  | given (value : α) : Filled standard (some value) value
  | absent : Filled standard none standard

theorem filled_iff {α : Type} {standard value : α} {given : Option α} :
    Filled standard given value ↔ value = given.getD standard := by
  constructor
  · intro h
    cases h <;> rfl
  · rintro rfl
    cases given with
    | none => exact .absent
    | some value => exact .given value

namespace Toml

/-- What stands in the place of a field of a section. A table has its fields under their names, an
array in their order, and a date has none. -/
inductive FieldOf (names : List Text) : Value → Nat → Option Value → Prop
  | named {kind : TableKind} {entries : Entries} {i : Nat} {name : Text}
      (hname : names[i]? = some name) :
      FieldOf names (.table kind entries) i (entries.lookup name)
  | placed {ofTables : Bool} {items : List Value} {i : Nat} :
      FieldOf names (.array ofTables items) i items[i]?
  | dated {i : Nat} : FieldOf names .date i none

/-- Whether a field that may be missing gives a number of 32 bits. -/
inductive GivesNumber : Option Value → Option UInt32 → Prop
  | nothing : GivesNumber none none
  | number (n : UInt32) : GivesNumber (some (.integer n.toNat)) (some n)

/-- The fields that are read of a section are those in its places. -/
theorem fieldOf_of_fields? {names : List Text} {v : Value} {fields : List (Option Value)}
    (h : fields? names v = some fields) {i : Nat} {field : Option Value}
    (hfield : fields[i]? = some field) : FieldOf names v i field := by
  cases v with
  | table kind entries =>
    simp only [fields?, Entries.fields?, Option.ite_none_right_eq_some, Option.some.injEq] at h
    rw [← h.2, List.getElem?_map, Option.map_eq_some_iff] at hfield
    obtain ⟨name, hname, rfl⟩ := hfield
    exact .named hname
  | array ofTables items =>
    obtain rfl := Option.some.inj h
    rw [List.getElem?_map, Option.map_eq_some_iff] at hfield
    obtain ⟨j, hj, rfl⟩ := hfield
    obtain ⟨-, rfl⟩ := List.getElem?_eq_some_iff.mp hj
    rw [List.getElem_range]
    exact .placed
  | date =>
    obtain rfl := Option.some.inj h
    rw [List.getElem?_map, Option.map_eq_some_iff] at hfield
    obtain ⟨_, -, rfl⟩ := hfield
    exact .dated
  | string text => cases h
  | integer n => cases h
  | float isTooGreat => cases h
  | boolean value => cases h

/-- A number is read as it is written. -/
theorem integer_of_uint32? {v : Value} {n : UInt32} (h : uint32? v = some n) :
    v = .integer n.toNat := by
  rw [uint32?, Option.map_eq_some_iff] at h
  obtain ⟨m, hm, rfl⟩ := h
  unfold below? at hm
  split at hm
  · next k =>
    rw [Option.ite_none_right_eq_some, Option.some.injEq] at hm
    obtain ⟨hk, rfl⟩ := hm
    rw [UInt32.toNat_ofNat_of_lt' hk]
    rfl
  · cases hm

theorem givesNumber_of_optional? {field : Option Value} {given : Option UInt32}
    (h : optional? uint32? field = some given) : GivesNumber field given := by
  cases field with
  | none =>
    obtain rfl := Option.some.inj h
    exact .nothing
  | some v =>
    rw [optional?, Option.map_eq_some_iff] at h
    obtain ⟨n, hn, rfl⟩ := h
    rw [integer_of_uint32? hn]
    exact .number n

end Toml

open Toml

/-- Whether a number is the one that stands in the place of a field of a section, or the standard
one if nothing stands there. -/
def NumberOf (names : List Text) (v : Value) (i : Nat) (standard value : UInt32) : Prop :=
  ∃ field given, FieldOf names v i field ∧ GivesNumber field given ∧ Filled standard given value

/-- Whether the default dice are those that a table of default dice gives. -/
def DiceDefaults.GivenBy (v : Value) (defaults : DiceDefaults) : Prop :=
  NumberOf ["count".toList, "faces".toList] v 0 1 defaults.count ∧
    NumberOf ["count".toList, "faces".toList] v 1 100 defaults.faces

/-- Whether the evaluator is told what a section on the evaluator gives. -/
def EvaluatorConfig.GivenBy (v : Value) (config : EvaluatorConfig) : Prop :=
  NumberOf ["max_roll_count".toList, ['d']] v 0 100 config.maxRollCount ∧
    ∃ field, FieldOf ["max_roll_count".toList, ['d']] v 1 field ∧
      ((field = none ∧ config.defaults = ⟨1, 100⟩) ∨
        ∃ d, field = some d ∧ config.defaults.GivenBy d)

/-- Whether a configuration has the section on the evaluator that a document gives. -/
inductive Configuration.EvaluatorGivenBy (c : Configuration) (entries : Entries) : Prop
  | absent (hentry : entries.lookup "evaluator".toList = none) (hsection : c.evaluator = none)
  | given {v : Value} {config : EvaluatorConfig}
      (hentry : entries.lookup "evaluator".toList = some v) (hsection : c.evaluator = some config)
      (hgiven : config.GivenBy v)

/-- A field that is read and completed is the number in its place. -/
theorem numberOf_of_fields? {names : List Text} {v : Value} {fields : List (Option Value)}
    (hfields : fields? names v = some fields) {i : Nat} {field : Option Value}
    (hfield : fields[i]? = some field) {given : Option UInt32}
    (hgiven : optional? uint32? field = some given) (standard : UInt32) :
    NumberOf names v i standard (given.getD standard) :=
  ⟨field, given, fieldOf_of_fields? hfields hfield, givesNumber_of_optional? hgiven,
    filled_iff.mpr rfl⟩

theorem DiceDefaults.givenBy_of_ofValue? {v : Value} {defaults : DiceDefaults}
    (h : ofValue? v = some defaults) : defaults.GivenBy v := by
  unfold ofValue? at h
  split at h
  · next count faces hfields =>
    simp only [Option.bind_eq_bind, Option.bind_eq_some_iff, Option.some.injEq] at h
    obtain ⟨count', hcount, faces', hfaces, rfl⟩ := h
    exact ⟨numberOf_of_fields? hfields rfl hcount 1, numberOf_of_fields? hfields rfl hfaces 100⟩
  · cases h

theorem EvaluatorConfig.givenBy_of_ofValue? {v : Value} {config : EvaluatorConfig}
    (h : ofValue? v = some config) : config.GivenBy v := by
  unfold ofValue? at h
  split at h
  · next maxRollCount d hfields =>
    simp only [Option.bind_eq_bind, Option.bind_eq_some_iff, Option.some.injEq] at h
    obtain ⟨maxRollCount', hmax, defaults, hdefaults, rfl⟩ := h
    refine ⟨numberOf_of_fields? hfields rfl hmax 100, d, fieldOf_of_fields? hfields rfl, ?_⟩
    cases d with
    | none =>
      obtain rfl := Option.some.inj hdefaults
      exact Or.inl ⟨rfl, rfl⟩
    | some d =>
      rw [optional?, Option.map_eq_some_iff] at hdefaults
      obtain ⟨defaults', hd, rfl⟩ := hdefaults
      exact Or.inr ⟨d, rfl, DiceDefaults.givenBy_of_ofValue? hd⟩
  · cases h

/-- A configuration that is read from a document has the section on the evaluator that the document
gives. -/
theorem Configuration.evaluatorGivenBy_of_ofEntries? {entries : Entries} {c : Configuration}
    (h : ofEntries? entries = some c) : c.EvaluatorGivenBy entries := by
  unfold ofEntries? at h
  split at h
  · next roll chat evaluator hfields =>
    simp only [Entries.fields?, Option.ite_none_right_eq_some, Option.some.injEq, List.map_cons,
      List.map_nil, List.cons.injEq, and_true] at hfields
    obtain ⟨-, -, -, rfl⟩ := hfields
    simp only [Option.bind_eq_bind, Option.bind_eq_some_iff, Option.some.injEq] at h
    obtain ⟨roll', -, chat', -, evaluator', hevaluator, rfl⟩ := h
    cases hentry : entries.lookup "evaluator".toList with
    | none =>
      rw [hentry] at hevaluator
      exact .absent hentry (Option.some.inj hevaluator).symm
    | some v =>
      rw [hentry, optional?, Option.map_eq_some_iff] at hevaluator
      obtain ⟨config, hconfig, rfl⟩ := hevaluator
      exact .given hentry rfl (EvaluatorConfig.givenBy_of_ofValue? hconfig)
  · cases h

end DiceBot
