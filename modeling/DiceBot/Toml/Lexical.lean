import DiceBot.Text.Markup

/-!
# Lexical parts of TOML

Blanks, comments, line ends, strings and keys. A reader takes a text and gives what it has read
together with the rest of the text, or nothing if the text does not begin that way. A string of
several lines keeps its line ends as they are written.
-/

namespace DiceBot.Toml

/-- Whether a character is blank within a line. -/
def isBlankMark (c : Char) : Bool := c == ' ' || c == '\t'

/-- Whether a character is a control character other than the tabulator; none may occur anywhere but
in line ends. -/
def isControl (c : Char) : Bool := (Nat.blt c.toNat 0x20 && c != '\t') || c.toNat == 0x7F

/-- What follows a line end. -/
def afterNewline? : Text → Option Text
  | '\n' :: t => some t
  | '\r' :: '\n' :: t => some t
  | _ => none

/-- Whether a text begins with a control character that does not belong to a line end. -/
def startsWithControl : Text → Bool
  | [] => false
  | c :: t => isControl c && (afterNewline? (c :: t)).isNone

/-- A text without its leading blanks. -/
def skipBlanks (t : Text) : Text := t.dropWhile isBlankMark

/-- Whether a character goes on with a comment. -/
def isWithinLine (c : Char) : Bool := c != '\n' && c != '\r'

/-- A text without the comment that it begins with, if it does. -/
def skipComment? : Text → Option Text
  | '#' :: t =>
    if (t.takeWhile isWithinLine).any isControl then none else some (t.dropWhile isWithinLine)
  | t => some t

/-- What follows the blanks and the comment at the end of a line. -/
def afterLine? (t : Text) : Option Text :=
  (skipComment? (skipBlanks t)).bind fun
    | [] => some []
    | t' => afterNewline? t'

/-- Skips blanks, comments and line ends, at most `bound` lines of them. -/
def skipLines? : (bound : Nat) → Text → Option Text
  | 0, t => some t
  | bound + 1, t =>
    (skipComment? (skipBlanks t)).bind fun t' =>
      match afterNewline? t' with
      | some rest => skipLines? bound rest
      | none => some t'

/-- Skips all blanks, comments and line ends. -/
def skipSpace? (t : Text) : Option Text := skipLines? (t.length + 1) t

/-- A text without its leading blanks and line ends. -/
def skipBlankLines : Text → Text
  | '\r' :: '\n' :: t => skipBlankLines t
  | c :: t => if isBlankMark c || c == '\n' then skipBlankLines t else c :: t
  | [] => []

/-- Reads the character with a code of a fixed number of hexadecimal digits. -/
def readCode? (digits : Nat) (t : Text) : Option (Char × Text) :=
  if (t.take digits).length = digits then
    ((Text.hexadecimal? (t.take digits)).bind Text.scalar?).map (·, t.drop digits)
  else none

/-- Reads what follows the backslash of an escape sequence. -/
def readEscape? : Text → Option (Char × Text)
  | 'b' :: t => some ('\x08', t)
  | 'e' :: t => some ('\x1b', t)
  | 't' :: t => some ('\t', t)
  | 'n' :: t => some ('\n', t)
  | 'f' :: t => some ('\x0c', t)
  | 'r' :: t => some ('\r', t)
  | '"' :: t => some ('"', t)
  | '\\' :: t => some ('\\', t)
  | 'x' :: t => readCode? 2 t
  | 'u' :: t => readCode? 4 t
  | 'U' :: t => readCode? 8 t
  | _ => none

/-- Puts a character before the string that was read after it. -/
def prepend (c : Char) (r : Text × Text) : Text × Text := (c :: r.1, r.2)

/-- Reads a string in double quotes after its opening quote; `bound` is at least the length. -/
def readBasic? : (bound : Nat) → Text → Option (Text × Text)
  | 0, _ => none
  | _, [] => none
  | bound + 1, c :: t =>
    if c = '"' then some ([], t)
    else if c = '\\' then
      (readEscape? t).bind fun r => (readBasic? bound r.2).map (prepend r.1)
    else if isControl c then none
    else (readBasic? bound t).map (prepend c)

/-- Reads a string in single quotes after its opening quote. -/
def readLiteral? : Text → Option (Text × Text)
  | [] => none
  | c :: t =>
    if c = '\'' then some ([], t)
    else if isControl c then none
    else (readLiteral? t).map (prepend c)

/-- What follows the three closing quotes of a string. Up to two more quotes belong to the
string. -/
def closeQuotes (quote : Char) : Text → Text × Text
  | a :: b :: t =>
    if a = quote then if b = quote then ([quote, quote], t) else ([quote], b :: t)
    else ([], a :: b :: t)
  | [a] => if a = quote then ([quote], []) else ([], [a])
  | [] => ([], [])

/-- What follows three quotes. -/
def afterQuotes? (quote : Char) (t : Text) : Option Text := Text.after? [quote, quote, quote] t

/-- What follows the line end, and the blanks and line ends after it, that a backslash at the end of
a line takes out of a string. -/
def afterContinuation? (t : Text) : Option Text :=
  (afterNewline? (skipBlanks t)).map skipBlankLines

/-- Reads a string of several lines in double quotes after its opening quotes; `bound` is at least
the length. -/
def readLongBasic? : (bound : Nat) → Text → Option (Text × Text)
  | 0, _ => none
  | _, [] => none
  | bound + 1, c :: t =>
    match afterQuotes? '"' (c :: t) with
    | some rest => some (closeQuotes '"' rest)
    | none =>
      if c = '\\' then
        match afterContinuation? t with
        | some rest => readLongBasic? bound rest
        | none => (readEscape? t).bind fun r => (readLongBasic? bound r.2).map (prepend r.1)
      else if startsWithControl (c :: t) then none
      else (readLongBasic? bound t).map (prepend c)

/-- Reads a string of several lines in single quotes after its opening quotes. -/
def readLongLiteral? : Text → Option (Text × Text)
  | [] => none
  | c :: t =>
    match afterQuotes? '\'' (c :: t) with
    | some rest => some (closeQuotes '\'' rest)
    | none =>
      if startsWithControl (c :: t) then none else (readLongLiteral? t).map (prepend c)

/-- A text without the line end that it begins with, if it does. -/
def dropNewline (t : Text) : Text := (afterNewline? t).getD t

/-- Reads a string of any kind. -/
def readString? (t : Text) : Option (Text × Text) :=
  match afterQuotes? '"' t, afterQuotes? '\'' t, t with
  | some rest, _, _ => readLongBasic? rest.length (dropNewline rest)
  | none, some rest, _ => readLongLiteral? (dropNewline rest)
  | none, none, '"' :: rest => readBasic? rest.length rest
  | none, none, '\'' :: rest => readLiteral? rest
  | none, none, _ => none

/-- Whether a character may stand in a key without quotes. -/
def isBareKeyChar (c : Char) : Bool := c.isAlphanum || c == '_' || c == '-'

/-- Reads one part of a key. -/
def readKeyPart? : Text → Option (Text × Text)
  | '"' :: rest => readBasic? rest.length rest
  | '\'' :: rest => readLiteral? rest
  | t =>
    match t.takeWhile isBareKeyChar with
    | [] => none
    | part => some (part, t.dropWhile isBareKeyChar)

/-- Reads a dotted key as the parts before the last one and the last one, at most `bound` parts. -/
def readDotted? : (bound : Nat) → Text → Option ((List Text × Text) × Text)
  | 0, _ => none
  | bound + 1, t =>
    (readKeyPart? (skipBlanks t)).bind fun r =>
      match skipBlanks r.2 with
      | '.' :: rest =>
        (readDotted? bound rest).map fun r' => ((r.1 :: r'.1.1, r'.1.2), r'.2)
      | rest => some (([], r.1), rest)

/-- How many parts a key may have. -/
def maxKeyParts : Nat := 80

/-- Reads a key and the blanks around it. -/
def readKey? (t : Text) : Option ((List Text × Text) × Text) := readDotted? maxKeyParts t

end DiceBot.Toml
