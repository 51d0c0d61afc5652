import DiceBot.Text.Basic

/-!
# TOML values

The values of a TOML document and the tables they form. A table remembers how it came about, because
that decides how it may grow: a table written in braces is closed, a table with a header of its own
gets no second one and is not extended by dotted keys, and a table made or extended by dotted keys
gets no header. Numbers of any size can be written down; whether one is too great shows when it is
looked at.
-/

namespace DiceBot.Toml

/-- How a table came about. -/
inductive TableKind where
  /-- By a header of its own; the document itself counts as such. -/
  | headed
  /-- By being named on the way to a table further down. -/
  | implied
  /-- By a dotted key, or by being named on the way and then extended by a dotted key. -/
  | dotted
  /-- In braces. -/
  | inline
  deriving DecidableEq, Repr

/-- A value. Of a date no more is kept than that it is there. -/
inductive Value where
  | string (text : Text)
  | integer (value : Int)
  /-- A number with a point or an exponent; `isTooGreat` tells whether it rounds to infinity. -/
  | float (isTooGreat : Bool)
  | boolean (value : Bool)
  | date
  /-- An array; `ofTables` tells whether it is made by headers in double brackets. -/
  | array (ofTables : Bool) (items : List Value)
  | table (kind : TableKind) (entries : List (Text × Value))

/-- Whether an integer is in the range of the format: 128 bits, with or without sign. -/
def isInRange (n : Int) : Bool := decide (-Int.pow 2 127 ≤ n ∧ n < Int.pow 2 128)

mutual

/-- Whether all numbers in a value are in the range of the format. -/
def Value.isReadable : Value → Bool
  | .integer n => isInRange n
  | .float isTooGreat => !isTooGreat
  | .array _ items => areReadable items
  | .table _ entries => haveReadableValues entries
  | .string _ => true
  | .boolean _ => true
  | .date => true

/-- Whether all numbers in some values are in the range of the format. -/
def areReadable : List Value → Bool
  | [] => true
  | item :: items => item.isReadable && areReadable items

/-- Whether all numbers in the values of some keys are in the range of the format. -/
def haveReadableValues : List (Text × Value) → Bool
  | [] => true
  | (_, value) :: entries => value.isReadable && haveReadableValues entries

end

/-- The keys of a table with their values, in the order in which the keys first appear. -/
abbrev Entries := List (Text × Value)

namespace Entries

/-- Changes the value of a key, or adds the key. -/
def set (key : Text) (value : Value) : Entries → Entries
  | [] => [(key, value)]
  | (k, v) :: rest => if k = key then (k, value) :: rest else (k, v) :: set key value rest

/-- Why a table is looked for. -/
inductive Purpose where
  /-- To define a table below it by a header. -/
  | header
  /-- To add an entry by a key. -/
  | entry
  /-- To go on with the table of the last header. -/
  | resume
  deriving DecidableEq, Repr

/-- Whether a table may be passed on the way. -/
def Purpose.mayPass : Purpose → TableKind → Bool
  | resume, _ => true
  | _, .inline => false
  | header, _ => true
  | entry, .headed => false
  | entry, _ => true

/-- The kind of the tables that are made on the way. -/
def Purpose.kindOnTheWay : Purpose → TableKind
  | entry => .dotted
  | _ => .implied

/-- The kind of a table after a path has led through it, or to it if nothing of the path is left. -/
def Purpose.kindAfter : Purpose → (path : List Text) → TableKind → TableKind
  | entry, [], _ => .dotted
  | _, _, kind => kind

/-- Changes the table that a path leads to from entries of a table of some kind, making the tables
that are missing on the way. In an array made by headers the way leads through the last table. -/
def changeAt (purpose : Purpose) (change : TableKind → Entries → Option Entries) :
    (path : List Text) → TableKind → Entries → Option Entries
  | [], kind, entries => change kind entries
  | key :: path, _, entries =>
    match entries.lookup key with
    | none =>
      let kind := purpose.kindOnTheWay
      (changeAt purpose change path kind []).map fun inner => set key (.table kind inner) entries
    | some (.table kind inner) =>
      if purpose.mayPass kind then
        (changeAt purpose change path kind inner).map fun inner' =>
          set key (.table (purpose.kindAfter path kind) inner') entries
      else none
    | some (.array true items) =>
      match items.getLast? with
      | some (.table kind inner) =>
        (changeAt purpose change path kind inner).map fun inner' =>
          set key (.array true (items.dropLast ++ [.table kind inner'])) entries
      | _ => none
    | some _ => none

/-- Defines a table by a header. -/
def openTable (parents : List Text) (key : Text) (document : Entries) : Option Entries :=
  changeAt .header (fun _ entries =>
    match entries.lookup key with
    | none => some (set key (.table .headed []) entries)
    | some (.table .implied inner) => some (set key (.table .headed inner) entries)
    | some _ => none) parents .headed document

/-- Adds a table to an array by a header in double brackets. -/
def openElement (parents : List Text) (key : Text) (document : Entries) : Option Entries :=
  changeAt .header (fun _ entries =>
    match entries.lookup key with
    | none => some (set key (.array true [.table .headed []]) entries)
    | some (.array true items) =>
      some (set key (.array true (items ++ [.table .headed []])) entries)
    | some _ => none) parents .headed document

/-- Adds an entry under a dotted key. A key is never given twice, and dotted keys do not reach into
tables that are made otherwise. -/
def assign (parents : List Text) (key : Text) (value : Value) (kind : TableKind)
    (entries : Entries) : Option Entries :=
  changeAt .entry (fun kind' entries' =>
    if (!parents.isEmpty && !Purpose.entry.mayPass kind') || (entries'.lookup key).isSome then none
    else some (set key value entries')) parents kind entries

end Entries

end DiceBot.Toml
