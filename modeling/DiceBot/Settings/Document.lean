import DiceBot.Settings.Basic
import DiceBot.Toml.Document

/-!
# Configuration documents

How a configuration is written as a document. Every section is a table, or an array of its fields in
a fixed order, or a date, which has none of the fields. Keys that mean nothing are passed over, but
not if their values hold numbers that are out of range; what an array holds beyond the fields is not
looked at. A value of the wrong type or size makes the whole document unreadable.
-/

namespace DiceBot

namespace Toml

/-- The fields of a table, given the names of the fields in order. All other values have to be
readable. -/
def Entries.fields? (names : List Text) (entries : Entries) : Option (List (Option Value)) :=
  if haveReadableValues (entries.filter fun entry => !names.contains entry.1) then
    some (names.map fun name => entries.lookup name)
  else none

/-- The fields of a section, given the names of the fields in order. An array leaves the last ones
out if it is too short, a date leaves all of them out. -/
def fields? (names : List Text) : Value → Option (List (Option Value))
  | .table _ entries => Entries.fields? names entries
  | .array _ items => some ((List.range names.length).map (items[·]?))
  | .date => some (names.map fun _ => none)
  | _ => none

/-- Whether a section is an array that leaves fields out. -/
def isTooShort (names : List Text) : Value → Bool
  | .array _ items => Nat.blt items.length names.length
  | _ => false

/-- Reads a field that may be missing. -/
def optional? {α : Type} (read? : Value → Option α) : Option Value → Option (Option α)
  | none => some none
  | some v => (read? v).map some

/-- An integer below a bound. -/
def below? (bound : Nat) : Value → Option Nat
  | .integer (.ofNat n) => if n < bound then some n else none
  | _ => none

/-- An integer of 32 bits without sign. -/
def uint32? (v : Value) : Option UInt32 := (below? UInt32.size v).map UInt32.ofNat

/-- An integer of 64 bits without sign. -/
def uint64? (v : Value) : Option UInt64 := (below? UInt64.size v).map UInt64.ofNat

/-- A string. -/
def string? : Value → Option Text
  | .string t => some t
  | _ => none

/-- An array. -/
def array? {α : Type} (read? : Value → Option α) : Value → Option (List α)
  | .array _ items => items.mapM read?
  | _ => none

end Toml

open Toml

/-- The source of names with this name. -/
def NameSource.ofName? (name : Text) : Option NameSource :=
  [("configured".toList, configured), ("nickname".toList, nickname),
    ("username".toList, username)].lookup name

/-- Reads a source of names: its name, or a table in which the name is the only key and has an empty
value. -/
def NameSource.ofValue? : Value → Option NameSource
  | .string name => ofName? name
  | .table _ [(name, .array _ [])] => ofName? name
  | .table _ [(name, .table _ [])] => ofName? name
  | _ => none

/-- The names of the fields of the section on rolls. -/
def RollSection.fieldNames : List Text :=
  ["max_roll_times".toList, "max_details_size".toList, "display_name_order".toList]

/-- Reads the section on rolls. -/
def RollSection.ofValue? (v : Value) : Option RollSection :=
  if isTooShort fieldNames v then none
  else match fields? fieldNames v with
    | some [times, size, order] => do
      let times ← optional? uint32? times
      let size ← optional? uint64? size
      let order ← optional? (array? NameSource.ofValue?) order
      some ⟨times, size, order⟩
    | _ => none

/-- The names of the fields of the section on chat. -/
def ChatSection.fieldNames : List Text := ["prefixes".toList, "bot_name".toList]

/-- Reads the section on chat. -/
def ChatSection.ofValue? (v : Value) : Option ChatSection :=
  if isTooShort fieldNames v then none
  else match fields? fieldNames v with
    | some [prefixes, botName] => do
      let prefixes ← optional? (array? string?) prefixes
      let botName ← optional? string? botName
      some ⟨prefixes, botName⟩
    | _ => none

/-- Reads the default dice. -/
def DiceDefaults.ofValue? (v : Value) : Option DiceDefaults :=
  match fields? ["count".toList, "faces".toList] v with
  | some [count, faces] => do
    let count ← optional? uint32? count
    let faces ← optional? uint32? faces
    some ⟨count.getD standard.count, faces.getD standard.faces⟩
  | _ => none

/-- Reads the section on the evaluator. -/
def EvaluatorConfig.ofValue? (v : Value) : Option EvaluatorConfig :=
  match fields? ["max_roll_count".toList, ['d']] v with
  | some [maxRollCount, defaults] => do
    let maxRollCount ← optional? uint32? maxRollCount
    let defaults ← optional? DiceDefaults.ofValue? defaults
    some ⟨maxRollCount.getD standard.maxRollCount, defaults.getD standard.defaults⟩
  | _ => none

/-- Reads a configuration from the entries of a document. -/
def Configuration.ofEntries? (entries : Entries) : Option Configuration :=
  match entries.fields? ["roll".toList, "chat".toList, "evaluator".toList] with
  | some [roll, chat, evaluator] => do
    let roll ← optional? RollSection.ofValue? roll
    let chat ← optional? ChatSection.ofValue? chat
    let evaluator ← optional? EvaluatorConfig.ofValue? evaluator
    some ⟨roll, chat, evaluator⟩
  | _ => none

/-- Reads a configuration from the text of a document. -/
def Configuration.ofText? (t : Text) : Option Configuration := (Toml.read? t).bind ofEntries?

end DiceBot
