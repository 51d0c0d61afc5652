import DiceBot.Text.Encoding

/-!
# Standard input

Standard input is read line by line. A line ends at a line feed, or at the end of the input if
something stands before it, and has to be a text. Reading may also fail before the input comes to
its end, and then what was begun of a line is lost.
-/

namespace DiceBot

namespace Console

/-- What can be read from standard input. -/
structure StandardInput where
  /-- The bytes that come in. -/
  bytes : List UInt8
  /-- Whether reading fails behind them, instead of coming to an end. -/
  fails : Bool
  deriving DecidableEq, Repr

/-- The byte of a line feed. -/
def lineFeed : UInt8 := 10

/-- Some bytes cut at their line feeds: the pieces that a line feed ends, and what is left. -/
def cutLines : List UInt8 → List (List UInt8) × List UInt8
  | [] => ([], [])
  | b :: rest =>
    let cut := cutLines rest
    if b = lineFeed then ([] :: cut.1, cut.2)
    else match cut.1 with
      | [] => ([], b :: cut.2)
      | piece :: pieces => ((b :: piece) :: pieces, cut.2)

/-- A line without the carriage return that may stand before its line feed. -/
def withoutReturn (line : Text) : Text :=
  if line.getLast? = some '\r' then line.dropLast else line

namespace StandardInput

/-- The input that is a text. -/
def ofText (t : Text) : StandardInput := ⟨t.bytes, false⟩

/-- The input after further bytes. -/
def behind (bs : List UInt8) (input : StandardInput) : StandardInput :=
  { input with bytes := bs ++ input.bytes }

/-- What reading comes to, line by line; there is no line where the bytes are no text and where
reading fails. -/
def lines (input : StandardInput) : List (Option Text) :=
  let cut := cutLines input.bytes
  cut.1.map (fun piece => (Text.ofBytes? piece).map withoutReturn) ++
    if input.fails then [none] else if cut.2.isEmpty then [] else [Text.ofBytes? cut.2]

end StandardInput

end Console

end DiceBot
