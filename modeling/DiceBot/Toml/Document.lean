import DiceBot.Toml.Lexical
import DiceBot.Toml.Scalar

/-!
# TOML documents

A document is a list of lines, each of which defines a table, adds a table to an array, or adds an
entry to the table defined last. Arrays and tables in braces may be nested eighty deep.
-/

namespace DiceBot.Toml

/-- Reads the values of an array up to its closing bracket, given how one is read. -/
def readItems? (readItem? : Text → Option (Value × Text)) : (bound : Nat) → Text →
    Option (List Value × Text)
  | 0, _ => none
  | bound + 1, t =>
    (skipSpace? t).bind fun
      | ']' :: rest => some ([], rest)
      | t' =>
        (readItem? t').bind fun item =>
          (skipSpace? item.2).bind fun
            | ',' :: rest => (readItems? readItem? bound rest).map fun r => (item.1 :: r.1, r.2)
            | ']' :: rest => some ([item.1], rest)
            | _ => none

/-- Reads the entries of a table in braces up to its closing brace, given how a value is read and
which entries are there already. -/
def readEntries? (readItem? : Text → Option (Value × Text)) : (bound : Nat) → Entries → Text →
    Option (Entries × Text)
  | 0, _, _ => none
  | bound + 1, entries, t =>
    (skipSpace? t).bind fun
      | '}' :: rest => some (entries, rest)
      | t' =>
        (readKey? t').bind fun key =>
          match key.2 with
          | '=' :: rest =>
            (readItem? (skipBlanks rest)).bind fun item =>
              (entries.assign key.1.1 key.1.2 item.1 .inline).bind fun entries' =>
                (skipSpace? item.2).bind fun
                  | ',' :: rest' => readEntries? readItem? bound entries' rest'
                  | '}' :: rest' => some (entries', rest')
                  | _ => none
          | _ => none

/-- Reads a value in which arrays and tables are nested no deeper than allowed. -/
def readValue? : (depth : Nat) → Text → Option (Value × Text)
  | depth, '[' :: t =>
    match depth with
    | 0 => none
    | depth + 1 => (readItems? (readValue? depth) t.length t).map fun r => (.array false r.1, r.2)
  | depth, '{' :: t =>
    match depth with
    | 0 => none
    | depth + 1 =>
      (readEntries? (readValue? depth) t.length [] t).map fun r => (.table .inline r.1, r.2)
  | _, t =>
    match t with
    | '"' :: _ => (readString? t).map fun r => (.string r.1, r.2)
    | '\'' :: _ => (readString? t).map fun r => (.string r.1, r.2)
    | _ => readScalar? t

/-- How deep arrays and tables in braces may be nested. -/
def maxDepth : Nat := 80

/-- A line of a document. -/
inductive Line where
  /-- A header: the table that the following entries belong to. -/
  | table (parents : List Text) (key : Text)
  /-- A header in double brackets: a new table in an array. -/
  | element (parents : List Text) (key : Text)
  /-- An entry. -/
  | entry (parents : List Text) (key : Text) (value : Value)

/-- Reads the rest of a header up to its closing brackets. -/
def readHeader? (line : List Text → Text → Line) (closing : Text) (t : Text) :
    Option (Line × Text) :=
  (readKey? t).bind fun key => (Text.after? closing key.2).map (line key.1.1 key.1.2, ·)

/-- Reads an entry. -/
def readEntry? (t : Text) : Option (Line × Text) :=
  (readKey? t).bind fun key =>
    match key.2 with
    | '=' :: rest =>
      (readValue? maxDepth (skipBlanks rest)).map fun r => (.entry key.1.1 key.1.2 r.1, r.2)
    | _ => none

/-- Reads a line, which begins with a character that is not blank, up to its comment. -/
def readLine? : Text → Option (Line × Text)
  | '[' :: '[' :: t => readHeader? .element [']', ']'] t
  | '[' :: t => readHeader? .table [']'] t
  | t => readEntry? t

/-- Reads all lines of a text, at most `bound` of them. -/
def readLines? : (bound : Nat) → Text → Option (List Line)
  | 0, _ => none
  | bound + 1, t =>
    (skipSpace? t).bind fun
      | [] => some []
      | t' =>
        (readLine? t').bind fun line =>
          (afterLine? line.2).bind fun rest => (readLines? bound rest).map (line.1 :: ·)

/-- A document as far as it has been put together. -/
structure Draft where
  /-- The entries of the document. -/
  document : Entries
  /-- The way to the table defined last. -/
  current : List Text

/-- Adds a line to a document. -/
def Draft.add? (draft : Draft) : Line → Option Draft
  | .table parents key =>
    (draft.document.openTable parents key).map (⟨·, parents ++ [key]⟩)
  | .element parents key =>
    (draft.document.openElement parents key).map (⟨·, parents ++ [key]⟩)
  | .entry parents key value =>
    (draft.document.changeAt .resume (fun kind entries => entries.assign parents key value kind)
      draft.current .headed).map (⟨·, draft.current⟩)

/-- Splits a byte order mark off a text, if there is one. -/
def skipMark : Text → Text
  | c :: t => if c = '\uFEFF' then t else c :: t
  | [] => []

/-- The entries of a document. -/
def read? (t : Text) : Option Entries :=
  let t' := skipMark t
  (readLines? (t'.length + 1) t').bind fun lines =>
    (lines.foldlM Draft.add? ⟨[], []⟩).map Draft.document

end DiceBot.Toml
