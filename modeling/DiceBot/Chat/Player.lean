import DiceBot.Text.Blank

/-!
# Players

The user who asks for a roll, and the name under which the reply speaks of the user.
-/

namespace DiceBot

/-- Where a name may come from. -/
inductive NameSource where
  /-- The name that the user has set with the bot. -/
  | configured
  /-- The nickname in the current channel. -/
  | nickname
  /-- The name of the account. -/
  | username
  deriving DecidableEq, Repr

/-- The order in which sources are tried unless configured otherwise. -/
def NameSource.standardOrder : List NameSource := [.configured, .nickname, .username]

/-- The user who asks for a roll. -/
structure Player where
  /-- Where private messages to the user go. -/
  userId : Text
  /-- The name of the account. -/
  username : Text
  /-- The name that the user has set with the bot. -/
  configuredName : Option Text
  /-- The nickname in the current channel. -/
  nickname : Option Text
  deriving DecidableEq, Repr

namespace Player

/-- The name from a source as it stands. -/
def rawName? (p : Player) : NameSource → Option Text
  | .configured => p.configuredName
  | .nickname => p.nickname
  | .username => some p.username

/-- The name from a source without the blanks around it, unless it is blank. -/
def name? (p : Player) (source : NameSource) : Option Text :=
  ((p.rawName? source).map Text.trim).filter (!·.isEmpty)

/-- The first name in an order of sources; failing that the name of the account, and failing that
the user's address. -/
def displayName (p : Player) (order : List NameSource) : Text :=
  ((order.findSome? p.name?).or (p.name? .username)).getD p.userId

end Player

end DiceBot
