import DiceBot.Text.Basic

/-!
# Texts as bytes

A text is stored and read as the bytes of its characters in UTF-8. Not all bytes are those of a
text.
-/

namespace DiceBot.Text

/-- The bytes of a text. -/
def bytes (t : Text) : List UInt8 := t.flatMap String.utf8EncodeChar

/-- The text of some bytes. -/
def ofBytes? (bs : List UInt8) : Option Text := (String.fromUTF8? ⟨bs.toArray⟩).map String.toList

end DiceBot.Text
