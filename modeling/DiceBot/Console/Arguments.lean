import DiceBot.Text.Basic

/-!
# Command-line arguments

The program has two subcommands. An argument that starts with a minus sign and is longer than it is
an option, until two minus signs end the options; an option takes its value from the next argument,
or after an equals sign from the same one. Arguments are looked at one after another, and the first
that does not fit decides.
-/

namespace DiceBot

/-- What the program is called for besides telling about itself. -/
inductive Task where
  /-- To answer one request. -/
  | roll (expression reason : Option Text) (hidden : Bool) (user nickname : Option Text)
  /-- To answer chat lines. -/
  | chat (user : Option Text) (direct : Bool)
  deriving DecidableEq, Repr

/-- What the program is called for. -/
inductive Invocation where
  /-- To tell the version. -/
  | version
  /-- To tell how the program is called. -/
  | help
  /-- To perform a task under the configured settings. -/
  | perform (task : Task)
  deriving DecidableEq, Repr

/-- The program was called in a way that is not understood. -/
structure UsageError where
  deriving DecidableEq, Repr

namespace Arguments

/-- An argument as it stands. -/
inductive Word where
  /-- Two minus signs, which end the options. -/
  | endOfOptions
  /-- An option with a long name, and the value after an equals sign. -/
  | long (name : Text) (value : Option Text)
  /-- Options with short names. -/
  | short (letters : Text)
  /-- Anything else. -/
  | plain (text : Text)
  deriving DecidableEq, Repr

/-- The kind of an argument. -/
def Word.ofText : Text → Word
  | ['-', '-'] => endOfOptions
  | '-' :: '-' :: t =>
    match t.dropWhile (· != '=') with
    | [] => long t none
    | _ :: value => long (t.takeWhile (· != '=')) (some value)
  | '-' :: c :: t => short (c :: t)
  | t => plain t

/-- A flag or an option with a value. -/
inductive Kind where
  | flag
  | valued
  deriving DecidableEq, Repr

/-- What a subcommand understands. -/
structure Signature where
  /-- The long names of its options. -/
  options : List (Text × Kind)
  /-- How many arguments it takes besides options. -/
  positionals : Nat

/-- What was read of the arguments of a subcommand. -/
structure Parsed where
  /-- The flags that were given. -/
  flags : List Text
  /-- The options that were given, with their values. -/
  values : List (Text × Text)
  /-- The other arguments in order. -/
  positionals : List Text
  deriving DecidableEq, Repr

/-- Nothing was read yet. -/
def Parsed.start : Parsed := ⟨[], [], []⟩

/-- Why reading stopped before the end of the arguments. -/
inductive Stop where
  /-- An argument does not fit. -/
  | usage
  /-- Help is asked for. -/
  | help
  deriving DecidableEq, Repr

/-- Adds an argument that is no option, unless there are too many. -/
def Parsed.addPositional (signature : Signature) (p : Parsed) (t : Text) : Except Stop Parsed :=
  if p.positionals.length < signature.positionals then
    .ok { p with positionals := p.positionals ++ [t] }
  else .error .usage

/-- Adds a flag, unless it was given before. -/
def Parsed.addFlag (p : Parsed) (name : Text) : Except Stop Parsed :=
  if p.flags.contains name then .error .usage else .ok { p with flags := p.flags ++ [name] }

/-- Adds an option with its value, unless it was given before. -/
def Parsed.addValue (p : Parsed) (name value : Text) : Except Stop Parsed :=
  if (p.values.lookup name).isSome then .error .usage
  else .ok { p with values := p.values ++ [(name, value)] }

/-- Whether short names ask for help. -/
def asksForHelp : Text → Bool
  | 'h' :: _ => true
  | _ => false

/-- The option whose value is the next argument. -/
def awaitsValue? (signature : Signature) : Word → Option Text
  | .long name none => if signature.options.lookup name = some .valued then some name else none
  | _ => none

/-- Reads one argument that does not take its value from the next one. -/
def Parsed.add (signature : Signature) (p : Parsed) : Word → Except Stop Parsed
  | .plain t => p.addPositional signature t
  | .short letters => .error (if asksForHelp letters then .help else .usage)
  | .endOfOptions => .ok p
  | .long name value =>
    match signature.options.lookup name, value with
    | some .flag, none => p.addFlag name
    | some .valued, some v => p.addValue name v
    | none, none => .error (if name = "help".toList then .help else .usage)
    | _, _ => .error .usage

/-- Reads the arguments of a subcommand. `awaiting` is the option whose value is the next
argument. -/
def read (signature : Signature) (p : Parsed) : (awaiting : Option Text) → List Text →
    Except Stop Parsed
  | none, [] => .ok p
  | some _, [] => .error .usage
  | some name, t :: ts =>
    match Word.ofText t with
    | .plain value => (p.addValue name value).bind fun p' => read signature p' none ts
    | _ => .error .usage
  | none, t :: ts =>
    let word := Word.ofText t
    match word, awaitsValue? signature word with
    | .endOfOptions, _ => ts.foldlM (Parsed.addPositional signature) p
    | _, some name =>
      if (p.values.lookup name).isSome then .error .usage else read signature p (some name) ts
    | _, none => (p.add signature word).bind fun p' => read signature p' none ts

/-- The option that makes a roll hidden. -/
def hiddenOption : Text := "rh".toList

/-- The option that names the user. -/
def userOption : Text := "user".toList

/-- The option that gives the user's nickname. -/
def nicknameOption : Text := "nickname".toList

/-- The option that takes every line as addressed to the bot. -/
def directOption : Text := "direct".toList

/-- What the subcommand for one request understands. -/
def rollSignature : Signature :=
  ⟨[(hiddenOption, .flag), (userOption, .valued), (nicknameOption, .valued)], 2⟩

/-- What the subcommand for chat lines understands. -/
def chatSignature : Signature := ⟨[(userOption, .valued), (directOption, .flag)], 0⟩

/-- Reads the arguments of a subcommand and makes a task of them. -/
def subcommand (signature : Signature) (make : Parsed → Task) (ts : List Text) :
    Except UsageError Invocation :=
  match read signature .start none ts with
  | .ok p => .ok (.perform (make p))
  | .error .help => .ok .help
  | .error .usage => .error {}

/-- The task to answer one request. -/
def Parsed.toRoll (p : Parsed) : Task :=
  .roll p.positionals[0]? p.positionals[1]? (p.flags.contains hiddenOption)
    (p.values.lookup userOption) (p.values.lookup nicknameOption)

/-- The task to answer chat lines. -/
def Parsed.toChat (p : Parsed) : Task :=
  .chat (p.values.lookup userOption) (p.flags.contains directOption)

/-- The subcommands that help can be asked about. -/
def subcommandNames : List Text := ["roll".toList, "chat".toList, "help".toList]

/-- Reads the arguments of the subcommand for help: one of the subcommands, or nothing. -/
def helpOn : List Text → Except UsageError Invocation
  | [] => .ok .help
  | [name] => if subcommandNames.contains name then .ok .help else .error {}
  | _ => .error {}

/-- The invocation that the arguments of the program stand for. -/
def invocation : List Text → Except UsageError Invocation
  | [] => .error {}
  | t :: ts =>
    match Word.ofText t with
    | .plain name =>
      if name = "roll".toList then subcommand rollSignature Parsed.toRoll ts
      else if name = "chat".toList then subcommand chatSignature Parsed.toChat ts
      else if name = "help".toList then helpOn ts
      else .error {}
    | .long name none =>
      if name = "version".toList then .ok .version
      else if name = "help".toList then .ok .help
      else .error {}
    | .short ('V' :: _) => .ok .version
    | .short ('h' :: _) => .ok .help
    | _ => .error {}

end Arguments

end DiceBot
