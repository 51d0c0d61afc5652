import DiceBot.Settings.Files

/-!
# The place of the log

The program keeps its log beside its configuration, or else below the directory it runs in. The
directories that the log lies in are made before anything else is done, so they are there when the
configuration is looked for.
-/

namespace DiceBot

namespace Console

/-- The path of the directory that a path lies in. -/
def directoryOf (path : Text) : Text :=
  let names := (Place.namesOf path).filter fun name => name != [] && name != ['.']
  Text.join ['/'] ((if path.head? = some '/' then [] else ['.']) :: names.dropLast)

/-- The directories that the log is tried in, one after another. -/
def logDirectories (configuration : Text) : List Text :=
  [directoryOf configuration ++ "/logs".toList, ".dicer/logs".toList]

/-- The path of the log in a directory. -/
def logIn (directory : Text) : Text := directory ++ "/dicer.log".toList

/-- A tree after the log was opened in the first of some directories in which it can be. A directory
may not be where the log should be. -/
def openLog (tree : FileTree) : (directories : List Text) → FileTree
  | [] => tree
  | directory :: rest =>
    let (tree', isMade) := tree.makeDirectories directory
    if isMade && tree'.find? (logIn directory) != some .directory then tree'
    else openLog tree' rest

end Console

end DiceBot
