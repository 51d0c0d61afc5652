import DiceBot.Console.Log
import DiceBot.Console.Program
import DiceBot.Dice.Seed

/-!
# Running the console program

Opens the log, reads the environment, draws a seed, and prints what the program answers. Chat lines
are answered one by one as they come in.
-/

namespace DiceBot

/-- How many rounds a modifier may take that repeats until no die meets its condition. -/
def playRounds : Nat := 100000

/-- The dice for one run of the program. -/
def boxOfSeed (seed : Nat) : DiceBox :=
  ⟨Notation.library "this is not dice notation".toList, .seeded (UInt64.ofNat seed), playRounds⟩

/-- What lies at a path on the disk. A path that leads through a file leads nowhere. -/
def readEntry (path : String) : IO (Option FileEntry) := do
  try
    let bytes ← IO.FS.readBinFile path
    return some (.file bytes.toList)
  catch
    | .noFileOrDirectory _ _ _ => return none
    | .inappropriateType _ 20 _ => return none
    | _ => return some .directory

/-- Opens the log in the first of some directories in which it can be opened. -/
def openLogOnDisk : (directories : List Text) → IO Unit
  | [] => return ()
  | directory :: rest => do
    try
      IO.FS.createDirAll (String.ofList directory)
      discard <| IO.FS.Handle.mk (String.ofList (Console.logIn directory)) .append
    catch _ => openLogOnDisk rest

/-- The environment of the program, of which only the file of the configuration matters. -/
def readEnvironment : IO Console.Environment := do
  let home := ((← IO.getEnv "HOME").getD "").toList
  let named := (← IO.getEnv "DICER_CONFIG").map String.toList
  let path := Configuration.path home named
  openLogOnDisk (Console.logDirectories path)
  let entry ← readEntry (String.ofList path)
  return ⟨fun place => if place = Place.ofPath path then entry else some .directory, home, named⟩

/-- Prints output as it stands. -/
def printOutput (t : Text) : IO Unit := do
  IO.print (String.ofList t)
  (← IO.getStdout).flush

/-- What comes in from a stream up to the end of a line. -/
def readLine (stream : IO.FS.Stream) : IO Console.StandardInput := do
  try
    let mut line : Array UInt8 := #[]
    repeat
      let bytes ← stream.read 1
      line := line ++ bytes.data
      if bytes.isEmpty ∨ bytes.data.contains Console.lineFeed then break
    return ⟨line.toList, false⟩
  catch _ => return ⟨[], true⟩

/-- Answers chat lines as they come in, each as the program answers an input of that line alone.
Together this is the chat on the whole input, as a session may be run on one part of its input after
another. -/
def answerStream (bot : Bot (List Request)) (p : Player) (direct : Bool) (stream : IO.FS.Stream) :
    IO UInt32 := do
  let mut log := []
  repeat
    let input ← readLine stream
    let exit := Console.runChat bot p direct input.lines log
    printOutput exit.output
    if exit.code ≠ 0 ∨ input.lines.isEmpty then return UInt32.ofNat exit.code
    log := exit.state
  return 0

end DiceBot

open DiceBot in
/-- Runs the program; chat lines are answered as they come, everything else at once. -/
def main (arguments : List String) : IO UInt32 := do
  let environment ← readEnvironment
  let evaluator := Evaluator.dice (boxOfSeed (← IO.rand 0 (UInt64.size - 1)))
  match Console.prepare environment (arguments.map String.toList) with
  | .error (code, output) =>
    printOutput output
    return UInt32.ofNat code
  | .ok (settings, .chat user direct) =>
    answerStream ⟨settings, evaluator⟩ (Console.player user none) direct (← IO.getStdin)
  | .ok (settings, task) =>
    let exit := Console.perform ⟨settings, evaluator⟩ ⟨[], false⟩ [] task
    printOutput exit.output
    return UInt32.ofNat exit.code
