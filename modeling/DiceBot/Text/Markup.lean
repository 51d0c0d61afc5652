import DiceBot.Text.Basic

/-!
# Markup entities

Chat platforms write some characters as entities: an ampersand, a name or a number, and a
semicolon. Unescaping reads a text once from left to right and replaces every entity by its
character; an ampersand that opens no entity stays as it is, and nothing produced is read again.
-/

namespace DiceBot.Text

/-- The named entities. -/
def namedEntities : List (Text × Char) :=
  [("amp".toList, '&'), ("lt".toList, '<'), ("gt".toList, '>'), ("quot".toList, '"'),
   ("apos".toList, '\'')]

/-- The value of an ASCII hexadecimal digit in either case. -/
def hexDigit? (c : Char) : Option Nat :=
  if c.isDigit then some (c.toNat - '0'.toNat)
  else if Nat.ble 'a'.toNat c.toNat && Nat.ble c.toNat 'f'.toNat then
    some (c.toNat - 'a'.toNat + 10)
  else if Nat.ble 'A'.toNat c.toNat && Nat.ble c.toNat 'F'.toNat then
    some (c.toNat - 'A'.toNat + 10)
  else none

/-- The value of a text of one or more ASCII hexadecimal digits. -/
def hexadecimal? (t : Text) : Option Nat :=
  if t.isEmpty then none else (t.mapM hexDigit?).map (·.foldl (16 * · + ·) 0)

/-- A text without one leading plus sign. -/
def dropPlus : Text → Text
  | '+' :: t => t
  | t => t

/-- The character of a scalar value. -/
def scalar? (n : Nat) : Option Char := if n.isValidChar then some (Char.ofNat n) else none

/-- The character that the text between ampersand and semicolon stands for. A number may carry one
plus sign and any number of leading zeros. -/
def entity? (body : Text) : Option Char :=
  match namedEntities.lookup body, body with
  | some c, _ => some c
  | none, '#' :: 'x' :: digits => (hexadecimal? (dropPlus digits)).bind scalar?
  | none, '#' :: 'X' :: digits => (hexadecimal? (dropPlus digits)).bind scalar?
  | none, '#' :: digits => (natural? (dropPlus digits)).bind scalar?
  | none, _ => none

/-- The character of the entity whose ampersand was just read, and the length of what remains of the
entity, the semicolon included. -/
def entityAhead? (t : Text) : Option (Char × Nat) :=
  match t.dropWhile (· != ';') with
  | [] => none
  | _ :: _ =>
    let body := t.takeWhile (· != ';')
    (entity? body).map (·, body.length + 1)

/-- Unescapes what follows the next `skip` characters. -/
def unescapeAfter : Nat → Text → Text
  | _, [] => []
  | skip + 1, _ :: rest => unescapeAfter skip rest
  | 0, c :: rest =>
    if c = '&' then
      match entityAhead? rest with
      | some (decoded, length) => decoded :: unescapeAfter length rest
      | none => '&' :: unescapeAfter 0 rest
    else c :: unescapeAfter 0 rest

/-- A text with every entity replaced by its character. -/
def unescape (t : Text) : Text := unescapeAfter 0 t

@[simp] theorem unescape_nil : unescape [] = [] := rfl

/-- A character other than the ampersand stands for itself. -/
theorem unescape_cons {c : Char} (hc : c ≠ '&') (t : Text) :
    unescape (c :: t) = c :: unescape t := by
  simp [unescape, unescapeAfter, hc]

end DiceBot.Text
