import DiceBot.Text.Case.Classes
import DiceBot.Text.Case.Runs

/-!
# Lower case

The full lower-case mapping of Unicode 17. All but two capital letters go to one fixed small letter.
The dotted capital I goes to a small i followed by a combining dot. The capital sigma depends on its
place: it goes to the final sigma at the end of a word and to the ordinary small sigma elsewhere.
-/

namespace DiceBot.Text

/-- The small letter of a capital letter that has a fixed one, and any other character itself. -/
def lowerChar (c : Char) : Char :=
  if Nat.ble 0x80 c.toNat then
    match caseRuns.find? (·.covers c.toNat) with
    | some run => Char.ofNat (run.image + (c.toNat - run.first))
    | none => c
  else c.toLower

/-- Whether the first character that is not case-ignorable exists and has a case. -/
def meetsCased (t : Text) : Bool :=
  match t.dropWhile isCaseIgnorable with
  | [] => false
  | c :: _ => isCased c

/-- The lower case of one character between the characters before it, nearest first, and the
characters after it. -/
def lowerAt (before : Text) (c : Char) (after : Text) : Text :=
  if c = 'Σ' then [if meetsCased before && !meetsCased after then 'ς' else 'σ']
  else if c = 'İ' then ['i', '\u0307']
  else [lowerChar c]

/-- The lower case of a text that follows the characters `before`, nearest first. -/
def lowerFrom (before : Text) : Text → Text
  | [] => []
  | c :: rest => lowerAt before c rest ++ lowerFrom (c :: before) rest

/-- The lower case of a text. -/
def lower (t : Text) : Text := lowerFrom [] t

end DiceBot.Text
