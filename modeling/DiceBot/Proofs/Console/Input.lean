import DiceBot.Console.Input
import DiceBot.Proofs.Text.Encoding

/-!
# The lines of standard input

A line ends at the next line feed, whatever stands behind that, so an input that was cut behind a
line feed is read as its two parts. The bytes of a text hold a line feed only where the text does,
so the lines of a text are pieces of it.
-/

namespace DiceBot.Console

/-- What stands before the first line feed is a piece. -/
theorem cutLines_append_cons {piece : List UInt8} (h : lineFeed ∉ piece) (rest : List UInt8) :
    cutLines (piece ++ lineFeed :: rest) = (piece :: (cutLines rest).1, (cutLines rest).2) := by
  induction piece with
  | nil => rw [List.nil_append, cutLines, if_pos rfl]
  | cons b piece ih =>
    rw [List.mem_cons, not_or] at h
    rw [List.cons_append, cutLines, if_neg (Ne.symm h.1), ih h.2]

/-- Bytes without a line feed are left over. -/
theorem cutLines_of_not_mem {piece : List UInt8} (h : lineFeed ∉ piece) :
    cutLines piece = ([], piece) := by
  induction piece with
  | nil => rfl
  | cons b piece ih =>
    rw [List.mem_cons, not_or] at h
    rw [cutLines, if_neg (Ne.symm h.1), ih h.2]

/-- Behind a line feed the pieces begin anew, whatever stood before it, and none is left over there.
The induction is on what stands before the line feed. -/
theorem cutLines_append_lineFeed (before rest : List UInt8) :
    cutLines (before ++ lineFeed :: rest) =
        ((cutLines (before ++ [lineFeed])).1 ++ (cutLines rest).1, (cutLines rest).2) ∧
      (cutLines (before ++ [lineFeed])).1 ≠ [] ∧ (cutLines (before ++ [lineFeed])).2 = [] := by
  induction before with
  | nil => exact ⟨rfl, List.cons_ne_nil _ _, rfl⟩
  | cons b before ih =>
    obtain ⟨hcut, hne, hleft⟩ := ih
    simp only [List.cons_append, cutLines, hcut]
    by_cases hb : b = lineFeed
    · simp only [if_pos hb]
      exact ⟨rfl, List.cons_ne_nil _ _, hleft⟩
    · obtain ⟨piece, pieces, hpieces⟩ := List.exists_cons_of_ne_nil hne
      simp only [if_neg hb, hpieces]
      exact ⟨rfl, List.cons_ne_nil _ _, hleft⟩

/-- A line loses one carriage return before its line feed. -/
theorem withoutReturn_append_return (line : Text) : withoutReturn (line ++ ['\r']) = line := by
  rw [withoutReturn, if_pos List.getLast?_concat, List.dropLast_concat]

/-- The bytes of a line hold no line feed. -/
theorem lineFeed_not_mem_bytes {line : Text} (h : '\n' ∉ line) : lineFeed ∉ line.bytes :=
  fun hmem => h (Text.newline_mem_of_mem_bytes hmem)

namespace StandardInput

/-- Input that was cut behind a line is read as its two parts. -/
theorem lines_behind {bs : List UInt8} (h : bs = [] ∨ bs.getLast? = some lineFeed)
    (rest : StandardInput) :
    (rest.behind bs).lines = (⟨bs, false⟩ : StandardInput).lines ++ rest.lines := by
  rcases h with rfl | hlast
  · rfl
  · obtain ⟨before, rfl⟩ := List.getLast?_eq_some_iff.mp hlast
    obtain ⟨hcut, -, hleft⟩ := cutLines_append_lineFeed before rest.bytes
    simp only [lines, behind, List.append_assoc, List.singleton_append, hcut, hleft,
      List.map_append, List.isEmpty_nil, Bool.false_eq_true, if_true, if_false, List.append_nil]

/-- Bytes that a line feed ends are read as one line. -/
theorem lines_behind_piece {piece : List UInt8} (h : lineFeed ∉ piece) (rest : StandardInput) :
    (rest.behind (piece ++ [lineFeed])).lines =
      (Text.ofBytes? piece).map withoutReturn :: rest.lines := by
  simp only [lines, behind, List.append_assoc, List.cons_append, List.nil_append,
    cutLines_append_cons h, List.map_cons]

/-- A text that a line feed ends is read as one line. -/
theorem lines_behind_line {line : Text} (h : '\n' ∉ line) (rest : StandardInput) :
    (rest.behind (line.bytes ++ [lineFeed])).lines = some (withoutReturn line) :: rest.lines := by
  rw [lines_behind_piece (lineFeed_not_mem_bytes h), Text.ofBytes?_bytes, Option.map_some]

/-- The end of the input ends the last line, too. -/
theorem lines_of_not_mem {piece : List UInt8} (h : lineFeed ∉ piece) (hne : piece ≠ []) :
    (⟨piece, false⟩ : StandardInput).lines = [Text.ofBytes? piece] := by
  simp only [lines, cutLines_of_not_mem h, List.map_nil, List.nil_append,
    List.isEmpty_eq_false_iff.mpr hne, Bool.false_eq_true, if_false]

/-- Where reading fails, no line is read. -/
theorem lines_of_fails {piece : List UInt8} (h : lineFeed ∉ piece) :
    (⟨piece, true⟩ : StandardInput).lines = [none] := by
  simp only [lines, cutLines_of_not_mem h, List.map_nil, List.nil_append, if_true]

end StandardInput

/-- The lines up to the first that cannot be read. -/
def readable : List (Option Text) → List Text
  | some line :: rest => line :: readable rest
  | _ => []

/-- What can be read of further lines does not count behind one that cannot be read. -/
theorem readable_append (ls ls' : List (Option Text)) :
    readable (ls ++ ls') = if none ∈ ls then readable ls else readable ls ++ readable ls' := by
  induction ls with
  | nil => rfl
  | cons line ls ih =>
    cases line with
    | none => simp [readable]
    | some line =>
      have hmem : none ∈ some line :: ls ↔ none ∈ ls := by simp
      simp only [List.cons_append, readable, ih, hmem]
      split <;> rfl

end DiceBot.Console
