import DiceBot.Settings.Document
import DiceBot.Settings.Files

/-!
# Loading a configuration

The configuration is looked for in a file: the one that the environment names, or else a certain
file below the user's home. If the file does not exist there is no configuration; if it exists it
has to be readable and well formed.
-/

namespace DiceBot

/-- Why there are no settings. -/
inductive ConfigurationError where
  /-- The file cannot be read as text. -/
  | unreadable (path : Text)
  /-- The file holds no configuration. -/
  | malformed (path : Text)
  /-- The configuration is turned down. -/
  | invalid (reason : InvalidConfiguration)
  deriving DecidableEq, Repr

/-- The path of the file that is at fault; a configuration that is turned down is told without. -/
def ConfigurationError.path? : ConfigurationError → Option Text
  | unreadable path => some path
  | malformed path => some path
  | invalid _ => none

namespace Configuration

/-- Loads the configuration in a file that has to exist. -/
def loadFrom (files : FileTree) (path : Text) : Except ConfigurationError Configuration :=
  match (files.find? path).bind FileEntry.text? with
  | none => .error (.unreadable path)
  | some text =>
    match ofText? text with
    | none => .error (.malformed path)
    | some c => .ok c

/-- The path of the configuration below the user's home. -/
def pathBelowHome : Text := "/.dicer/config.toml".toList

/-- The path of the configuration: the one that the environment names, unless it is empty, or else
the one below the user's home. -/
def path (home : Text) (named : Option Text) : Text :=
  (named.filter (!·.isEmpty)).getD (home ++ pathBelowHome)

/-- Loads the configuration, if there is one. -/
def load (files : FileTree) (path : Text) : Except ConfigurationError (Option Configuration) :=
  if (files.find? path).isNone then .ok none else (loadFrom files path).map some

/-- The settings of a configuration that was loaded. -/
def settingsOrError (c : Configuration) : Except ConfigurationError Settings :=
  c.settings.mapError .invalid

end Configuration

namespace Settings

/-- The settings of a text that holds a configuration. -/
def ofText (path t : Text) : Except ConfigurationError Settings :=
  match Configuration.ofText? t with
  | none => .error (.malformed path)
  | some c => c.settingsOrError

/-- The settings of a file that has to exist. -/
def loadFrom (files : FileTree) (path : Text) : Except ConfigurationError Settings :=
  (Configuration.loadFrom files path).bind Configuration.settingsOrError

/-- The settings of a file, if it exists. -/
def load (files : FileTree) (path : Text) : Except ConfigurationError (Option Settings) :=
  (Configuration.load files path).bind fun
    | none => .ok none
    | some c => c.settingsOrError.map some

end Settings

end DiceBot
