import DiceBot.Chat.Recognition

/-!
# Chat messages

A chat line is directed at the bot by mentioning its name at the beginning or by beginning with one
of the command prefixes.
-/

namespace DiceBot

/-- A chat line and how it was directed at the bot. -/
structure Message where
  /-- The line without mention and leading blanks. -/
  text : Text
  /-- The command prefix that the line begins with. -/
  commandPrefix : Option Text
  /-- Whether the bot was mentioned, or the line arrived in a direct conversation. -/
  addressed : Bool
  deriving DecidableEq, Repr

namespace Message

/-- The first command prefix, blank ones included and empty ones not, that a text begins with after
its leading blanks. -/
def matchPrefix? (prefixes : List Text) (text : Text) : Option Text :=
  prefixes.find? fun lead => !lead.isEmpty && (Text.after? lead (Text.trimStart text)).isSome

/-- What follows the mention of a bot with this name, if a text without leading blanks begins with
one. The name must end there. -/
def afterMention? (botName : Text) (text : Text) : Option Text :=
  if botName.isEmpty then none
  else (Text.after? ('@' :: botName) text).filter fun
    | [] => true
    | c :: _ => Text.isBlankChar c

/-- The message of a chat line. -/
def ofLine (botName : Text) (prefixes : List Text) (line : Text) : Message :=
  let trimmed := Text.trimStart line
  match afterMention? botName trimmed with
  | some rest =>
    let text := Text.trimStart rest
    ⟨text, matchPrefix? prefixes text, true⟩
  | none => ⟨trimmed, matchPrefix? prefixes trimmed, false⟩

/-- What the message asks of the bot. -/
def recognize (m : Message) : Option Recognized :=
  Recognition.classify m.commandPrefix m.addressed m.text

end Message

end DiceBot
