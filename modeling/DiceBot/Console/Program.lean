import DiceBot.Bot.Session
import DiceBot.Console.Arguments
import DiceBot.Console.Input
import DiceBot.Settings.Load

/-!
# The console program

The program answers one request, or one chat line after another, and prints what a channel would
show. Private messages are printed too, marked with their recipient, and are always delivered. The
arguments are checked before the configuration is loaded, and nothing is printed or evaluated unless
both are in order. A chat goes on to the end of its input, or to a line that cannot be read.
-/

namespace DiceBot

namespace Console

variable {σ : Type}

/-- The end of a run of the program with an evaluator that has a memory of type `σ`. -/
structure Exit (σ : Type) where
  /-- The exit code. -/
  code : Nat
  /-- What was printed on standard output. -/
  output : Text
  /-- The expressions that were evaluated, in order. -/
  calls : List Text
  /-- What the evaluator remembers afterwards. -/
  state : σ

/-- The exit of a program that has done more before. -/
def Exit.after {σ : Type} (output : Text) (calls : List Text) (exit : Exit σ) : Exit σ :=
  { exit with output := output ++ exit.output, calls := calls ++ exit.calls }

/-- What `--version` prints. -/
def versionLine : Text := "dicer 0.0.0\n".toList

/-- What `--help` prints. -/
def helpText : Text :=
  ("Usage: dicer roll [EXPRESSION] [REASON] [--rh] [--user USER] [--nickname NICKNAME]\n" ++
    "       dicer chat [--user USER] [--direct]\n").toList

/-- The name of the user unless given. -/
def standardUser : Text := "player".toList

/-- The channel on which every private message is delivered. -/
def channel : PrivateChannel := fun _ => none

/-- A text as a line of output. -/
def printed (t : Text) : Text := t ++ ['\n']

/-- A private message as output. -/
def printedPrivately (m : PrivateMessage) : Text :=
  printed ("[private → ".toList ++ m.recipient ++ "] ".toList ++ m.text)

/-- An answer as output: the private messages, then the reply if there is one. -/
def printedAnswer (a : Answer σ (Option Text)) : Text :=
  a.sent.flatMap printedPrivately ++
    match a.result with
    | .ok (some reply) => printed reply
    | _ => []

/-- The user of the program. -/
def player (user nickname : Option Text) : Player :=
  let name := user.getD standardUser
  ⟨name, name, none, nickname⟩

/-- The request of the subcommand for one request: its arguments are taken as those of the explicit
command. -/
def request (expression reason : Option Text) (hidden : Bool) : RollRequest :=
  (RollRequest.ofArguments (Text.join [' '] (expression.toList ++ reason.toList))).orHidden hidden

/-- Answers one request. -/
def runRoll (bot : Bot σ) (expression reason : Option Text) (hidden : Bool)
    (user nickname : Option Text) (s : σ) : Exit σ :=
  let answer := bot.execute channel (player user nickname) (request expression reason hidden) s
  let output := answer.sent.flatMap printedPrivately
  match answer.result with
  | .ok reply => ⟨0, output ++ printed reply, answer.calls, answer.state⟩
  | .error _ => ⟨1, output, answer.calls, answer.state⟩

/-- Answers one chat line. -/
def answerLine (bot : Bot σ) (p : Player) (direct : Bool) (line : Text) (s : σ) :
    Answer σ (Option Text) :=
  let message := bot.message line
  bot.handleMessage channel p { message with addressed := message.addressed || direct } s

/-- Answers chat lines one after another, up to one that cannot be read. -/
def runChat (bot : Bot σ) (p : Player) (direct : Bool) : List (Option Text) → σ → Exit σ
  | [], s => ⟨0, [], [], s⟩
  | none :: _, s => ⟨1, [], [], s⟩
  | some line :: rest, s =>
    let answer := answerLine bot p direct line s
    (runChat bot p direct rest answer.state).after (printedAnswer answer) answer.calls

/-- Performs a task. -/
def perform (bot : Bot σ) (input : StandardInput) (s : σ) : Task → Exit σ
  | .roll expression reason hidden user nickname =>
    runRoll bot expression reason hidden user nickname s
  | .chat user direct => runChat bot (player user none) direct input.lines s

/-- What the program finds around it. -/
structure Environment where
  /-- The files. -/
  files : FileTree
  /-- The user's home. -/
  home : Text
  /-- The path of the configuration that the environment names. -/
  configuration : Option Text

/-- The settings that the program runs under. -/
def Environment.settings (e : Environment) : Except ConfigurationError Settings :=
  (Settings.load e.files (Configuration.path e.home e.configuration)).map (·.getD .standard)

/-- What a call of the program comes to: a task under settings, or else an exit at once, with its
code and what is printed. -/
def prepare (e : Environment) (arguments : List Text) : Except (Nat × Text) (Settings × Task) :=
  match Arguments.invocation arguments with
  | .error _ => .error (2, [])
  | .ok .version => .error (0, versionLine)
  | .ok .help => .error (0, helpText)
  | .ok (.perform task) =>
    match e.settings with
    | .error _ => .error (1, [])
    | .ok settings => .ok (settings, task)

/-- Runs the program with an evaluator in a state. -/
def start (evaluator : Evaluator σ) (s : σ) (e : Environment) (arguments : List Text)
    (input : StandardInput) : Exit σ :=
  match prepare e arguments with
  | .error (code, output) => ⟨code, output, [], s⟩
  | .ok (settings, task) => perform ⟨settings, evaluator⟩ input s task

end Console

end DiceBot
