import DiceBot.Text.CodePoints

/-!
# Blank characters

The characters of the Unicode property `White_Space`, the ways to strip them from the ends of a
text, and the words between them.
-/

namespace DiceBot.Text

/-- The code points of the property `White_Space`. -/
def blankCodePoints : CodePoints :=
  [(0x9, 0xD), (0x20, 0x20), (0x85, 0x85), (0xA0, 0xA0), (0x1680, 0x1680), (0x2000, 0x200A),
   (0x2028, 0x2029), (0x202F, 0x202F), (0x205F, 0x205F), (0x3000, 0x3000)]

/-- Whether a character has the property `White_Space`. -/
def isBlankChar (c : Char) : Bool := blankCodePoints.has c

/-- Whether a text holds nothing but blank characters. -/
def isBlank (t : Text) : Bool := t.all isBlankChar

/-- A text without its leading blanks. -/
def trimStart (t : Text) : Text := t.dropWhile isBlankChar

/-- A text without its trailing blanks. -/
def trimEnd (t : Text) : Text := (t.reverse.dropWhile isBlankChar).reverse

/-- A text without the blanks at its ends. -/
def trim (t : Text) : Text := trimEnd (trimStart t)

/-- The maximal runs of characters that are not blank, in order. -/
def words : Text → List Text
  | [] => []
  | [c] => if isBlankChar c then [] else [[c]]
  | c :: d :: rest =>
    if isBlankChar c then words (d :: rest)
    else if isBlankChar d then [c] :: words (d :: rest)
    else match words (d :: rest) with
      | [] => [[c]]
      | word :: others => (c :: word) :: others

@[simp] theorem isBlank_nil : isBlank [] = true := rfl

@[simp] theorem words_nil : words [] = [] := rfl

/-- A leading blank separates nothing. -/
theorem words_cons_blank {c : Char} (hc : isBlankChar c = true) (t : Text) :
    words (c :: t) = words t := by
  cases t <;> simp [words, hc]

end DiceBot.Text
