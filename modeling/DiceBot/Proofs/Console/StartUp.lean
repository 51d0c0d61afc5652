import DiceBot.Console.Log
import DiceBot.Proofs.Console.Replies

/-!
# Starting up

Once its arguments are understood, the program either finds its configuration at fault, and then it
prints nothing and leaves the evaluator alone, or it has settings and answers all that it is asked.
What goes wrong with a request is told in the answer and never in the exit code; only a chat line
that cannot be read is.
-/

namespace DiceBot

namespace Settings

variable {files : FileTree} {path : Text}

/-- Without a file there are no settings. -/
theorem load_of_absent (h : files.find? path = none) : load files path = .ok none := by
  rw [load, Configuration.load, h]
  rfl

/-- What is no text holds no settings. -/
theorem load_of_unreadable {entry : FileEntry} (hentry : files.find? path = some entry)
    (htext : entry.text? = none) : load files path = .error (.unreadable path) := by
  rw [load, Configuration.load, Configuration.loadFrom, hentry, Option.bind_some, htext]
  rfl

/-- The settings of a file are those of its text. -/
theorem load_of_text {entry : FileEntry} {t : Text} (hentry : files.find? path = some entry)
    (htext : entry.text? = some t) : load files path = (ofText path t).map some := by
  simp only [load, Configuration.load, Configuration.loadFrom, hentry, Option.bind_some, htext,
    ofText]
  cases Configuration.ofText? t with
  | none => rfl
  | some c => rfl

end Settings

namespace Console

/-- Whether the configuration is looked for at a path: at the one that the environment names, if
that is not empty, and otherwise below the user's home. -/
inductive LooksAt (home : Text) : (named : Option Text) → Text → Prop
  | named {path : Text} (hne : path ≠ []) : LooksAt home (some path) path
  | belowHome {named : Option Text} (h : named = none ∨ named = some []) :
      LooksAt home named (home ++ "/.dicer/config.toml".toList)

/-- What is found at the path of the configuration: the settings to run under, if it is not at
fault. -/
inductive Finds (files : FileTree) (path : Text) : Option Settings → Prop
  | absent (hentry : files.find? path = none) : Finds files path (some .standard)
  | unreadable {entry : FileEntry} (hentry : files.find? path = some entry)
      (htext : entry.text? = none) : Finds files path none
  | malformed {entry : FileEntry} {t : Text} (hentry : files.find? path = some entry)
      (htext : entry.text? = some t) (hread : Configuration.ofText? t = none) :
      Finds files path none
  | invalid {entry : FileEntry} {t : Text} {c : Configuration} {fault : InvalidConfiguration}
      (hentry : files.find? path = some entry) (htext : entry.text? = some t)
      (hread : Configuration.ofText? t = some c) (hsettings : c.settings = .error fault) :
      Finds files path none
  | accepted {entry : FileEntry} {t : Text} {c : Configuration} {settings : Settings}
      (hentry : files.find? path = some entry) (htext : entry.text? = some t)
      (hread : Configuration.ofText? t = some c) (hsettings : c.settings = .ok settings) :
      Finds files path (some settings)

/-- The configuration is looked for at one path. -/
theorem looksAt_iff {home path : Text} {named : Option Text} :
    LooksAt home named path ↔ path = Configuration.path home named := by
  constructor
  · intro h
    cases h with
    | named hne => simp [Configuration.path, Option.filter, List.isEmpty_eq_false_iff.mpr hne]
    | belowHome h => rcases h with rfl | rfl <;> rfl
  · rintro rfl
    cases named with
    | none => exact .belowHome (Or.inl rfl)
    | some path =>
      cases path with
      | nil => exact .belowHome (Or.inr rfl)
      | cons c path => exact .named (List.cons_ne_nil c path)

/-- The settings that are found are those that are loaded, or the standard ones if there is no
configuration. -/
theorem finds_iff {files : FileTree} {path : Text} {found : Option Settings} :
    Finds files path found ↔
      ((Settings.load files path).map (·.getD .standard)).toOption = found := by
  constructor
  · intro h
    cases h with
    | absent hentry =>
      rw [Settings.load_of_absent hentry]
      rfl
    | unreadable hentry htext =>
      rw [Settings.load_of_unreadable hentry htext]
      rfl
    | malformed hentry htext hread =>
      rw [Settings.load_of_text hentry htext, Settings.ofText, hread]
      rfl
    | invalid hentry htext hread hsettings | accepted hentry htext hread hsettings =>
      simp only [Settings.load_of_text hentry htext, Settings.ofText, hread,
        Configuration.settingsOrError, hsettings]
      rfl
  · rintro rfl
    cases hentry : files.find? path with
    | none =>
      rw [Settings.load_of_absent hentry]
      exact .absent hentry
    | some entry =>
      cases htext : entry.text? with
      | none =>
        rw [Settings.load_of_unreadable hentry htext]
        exact .unreadable hentry htext
      | some t =>
        rw [Settings.load_of_text hentry htext, Settings.ofText]
        cases hread : Configuration.ofText? t with
        | none => exact .malformed hentry htext hread
        | some c =>
          simp only [Configuration.settingsOrError]
          cases hsettings : c.settings with
          | error fault => exact .invalid hentry htext hread hsettings
          | ok settings => exact .accepted hentry htext hread hsettings

variable {σ : Type}

/-- A program that is called for a task evaluates nothing if there are no settings, and performs the
task under those that there are. -/
theorem start_perform {e : Environment} {arguments : List Text} {task : Task}
    (hcall : Arguments.invocation arguments = .ok (.perform task)) (evaluator : Evaluator σ) (s : σ)
    (input : StandardInput) :
    start evaluator s e arguments input =
      match e.settings.toOption with
      | none => ⟨1, [], [], s⟩
      | some settings => perform ⟨settings, evaluator⟩ input s task := by
  simp only [start, prepare, hcall]
  cases e.settings with
  | error fault => rfl
  | ok settings => rfl

/-- The requests that a task makes, for each chat line that is read at most one. -/
def requests (bot : Bot σ) (input : StandardInput) : Task → List (Option RollRequest)
  | .roll expression reason hidden _ _ => [some (request expression reason hidden)]
  | .chat _ direct => (readable input.lines).map (request? bot direct)

/-- Whether a task breaks off: a chat does at a line that cannot be read. -/
def BreaksOff (input : StandardInput) : Task → Prop
  | .roll .. => False
  | .chat .. => none ∈ input.lines

/-- The user for whom a task is performed. -/
def caller : Task → Player
  | .roll _ _ _ user nickname => player user nickname
  | .chat user _ => player user none

/-- What is printed for requests, one after another, each with what the evaluator remembers of those
before, and what it remembers in the end. -/
inductive Prints (bot : Bot σ) (p : Player) : List (Option RollRequest) → σ → Text → σ → Prop
  | done (s : σ) : Prints bot p [] s [] s
  | ignored {rest : List (Option RollRequest)} {s s' : σ} {output : Text}
      (hrest : Prints bot p rest s output s') : Prints bot p (none :: rest) s output s'
  | replied {request : RollRequest} {rest : List (Option RollRequest)} {s s' s'' : σ}
      {t output : Text} (hreply : Replies bot p request s t s')
      (hrest : Prints bot p rest s' output s'') :
      Prints bot p (some request :: rest) s (t ++ output) s''

/-- One thing is printed for requests. -/
theorem Prints.unique {bot : Bot σ} {p : Player} {asked : List (Option RollRequest)} {s s₁ s₂ : σ}
    {output₁ output₂ : Text} (h₁ : Prints bot p asked s output₁ s₁)
    (h₂ : Prints bot p asked s output₂ s₂) : output₁ = output₂ ∧ s₁ = s₂ := by
  induction h₁ generalizing output₂ s₂ with
  | done s =>
    cases h₂
    exact ⟨rfl, rfl⟩
  | ignored hrest₁ ih =>
    cases h₂ with
    | ignored hrest₂ => exact ih hrest₂
  | replied hreply₁ hrest₁ ih =>
    cases h₂ with
    | replied hreply₂ hrest₂ =>
      obtain ⟨rfl, rfl⟩ := hreply₁.unique hreply₂
      obtain ⟨rfl, rfl⟩ := ih hrest₂
      exact ⟨rfl, rfl⟩

/-- One request is answered with exit code 0, whatever comes of it. -/
theorem prints_runRoll (bot : Bot σ) (expression reason : Option Text) (hidden : Bool)
    (user nickname : Option Text) (s : σ) :
    (runRoll bot expression reason hidden user nickname s).code = 0 ∧
      Prints bot (player user nickname) [some (request expression reason hidden)] s
        (runRoll bot expression reason hidden user nickname s).output
        (runRoll bot expression reason hidden user nickname s).state := by
  obtain ⟨t, s', hreply⟩ :=
    exists_replies bot (player user nickname) (request expression reason hidden) s
  obtain ⟨reply, sent, calls, hanswer, ht⟩ := hreply.execute_eq
  have hprints := Prints.replied hreply (.done s')
  rw [List.append_nil, ← ht] at hprints
  rw [runRoll, hanswer]
  exact ⟨rfl, hprints⟩

/-- Chat lines are answered one after another, up to one that cannot be read. The induction is on
the lines, with what the evaluator remembers. -/
theorem prints_runChat (bot : Bot σ) (p : Player) (direct : Bool) (ls : List (Option Text))
    (s : σ) : Prints bot p ((readable ls).map (request? bot direct)) s
      (runChat bot p direct ls s).output (runChat bot p direct ls s).state := by
  induction ls generalizing s with
  | nil => exact .done s
  | cons line ls ih =>
    cases line with
    | none => exact .done s
    | some line =>
      rw [readable, List.map_cons, runChat]
      cases hrequest : request? bot direct line with
      | none =>
        rw [answerLine_of_none hrequest]
        exact .ignored (ih s)
      | some request => exact .replied (replies_answerLine hrequest p s) (ih _)

/-- A task that is performed prints the replies, and its exit code tells whether it broke off. -/
theorem prints_perform (bot : Bot σ) (input : StandardInput) (s : σ) (task : Task) :
    (¬BreaksOff input task → (perform bot input s task).code = 0) ∧
      (BreaksOff input task → (perform bot input s task).code = 1) ∧
      Prints bot (caller task) (requests bot input task) s (perform bot input s task).output
        (perform bot input s task).state := by
  cases task with
  | roll expression reason hidden user nickname =>
    obtain ⟨hcode, hprints⟩ := prints_runRoll bot expression reason hidden user nickname s
    exact ⟨fun _ => hcode, fun h => h.elim, hprints⟩
  | chat user direct =>
    have hcode := code_runChat bot (player user none) direct input.lines s
    exact ⟨fun h => hcode.trans (if_neg h), fun h => hcode.trans (if_pos h),
      prints_runChat bot (player user none) direct input.lines s⟩

/-- For arguments that call for a task, whatever the environment and the input: the configuration is
looked for at one path, and there is one thing to be found there. If it is at fault, the program
exits with code 1, prints nothing and makes no use of the evaluator. Otherwise what it prints under
the settings that were found are the replies to its requests in order, of which one that is refused
or fails has its message for a reply; and the program exits with code 0, unless it is a chat of
which a line cannot be read. There it breaks off with code 1. -/
theorem start_all_or_nothing {arguments : List Text} {task : Task}
    (hcall : Arguments.invocation arguments = .ok (.perform task)) (e : Environment)
    (input : StandardInput) :
    ∃ path found, (∀ path', LooksAt e.home e.configuration path' ↔ path' = path) ∧
      (∀ found', Finds e.files path found' ↔ found' = found) ∧
      ∀ {σ : Type} (evaluator : Evaluator σ) (s : σ),
        (found = none → start evaluator s e arguments input = ⟨1, [], [], s⟩) ∧
        ∀ settings, found = some settings →
          let exit := start evaluator s e arguments input
          (¬BreaksOff input task → exit.code = 0) ∧ (BreaksOff input task → exit.code = 1) ∧
            ∀ output s', Prints ⟨settings, evaluator⟩ (caller task)
              (requests ⟨settings, evaluator⟩ input task) s output s' ↔
                output = exit.output ∧ s' = exit.state := by
  refine ⟨Configuration.path e.home e.configuration, e.settings.toOption, fun _ => looksAt_iff,
    fun found' => finds_iff.trans eq_comm, ?_⟩
  intro σ evaluator s
  rw [start_perform hcall]
  constructor
  · intro hfound
    rw [hfound]
  · intro settings hfound
    rw [hfound]
    obtain ⟨hgood, hbad, hprints⟩ := prints_perform ⟨settings, evaluator⟩ input s task
    refine ⟨hgood, hbad, fun output s' => ⟨fun h => h.unique hprints, ?_⟩⟩
    rintro ⟨rfl, rfl⟩
    exact hprints

/-- A hidden roll repeated too often, where the environment names a directory, and where it names
nothing and there is no configuration. -/
theorem start_all_or_nothing_hidden_eleven :
    let arguments := ["roll".toList, "--rh".toList, "11#d".toList]
    let evaluator : Evaluator Nat := ⟨(· == 'd'), fun _ t s => (.ok ⟨3, t⟩, s + 1)⟩
    let faulty : Environment := ⟨fun _ => some .directory, "/home/ann".toList, some "c".toList⟩
    let fresh : Environment := ⟨fun _ => none, "/home/ann".toList, some []⟩
    Arguments.invocation arguments =
        .ok (.perform (.roll (some "11#d".toList) none true none none)) ∧
      start evaluator 0 faulty arguments ⟨[], false⟩ = ⟨1, [], [], 0⟩ ∧
      (start evaluator 0 fresh arguments ⟨[], false⟩).code = 0 ∧
      (start evaluator 0 fresh arguments ⟨[], false⟩).output =
        "投掷次数必须是 1 到 10 之间的整数。\n".toList := by
  intro arguments evaluator faulty fresh
  have hcall : Arguments.invocation arguments =
      .ok (.perform (.roll (some "11#d".toList) none true none none)) := by rfl
  refine ⟨hcall, ?_, ?_⟩
  · obtain ⟨path, found, hpath, hfound, hstart⟩ :=
      start_all_or_nothing hcall faulty ⟨[], false⟩
    obtain rfl := (hpath "c".toList).mp (.named (by decide))
    have hentry : faulty.files.find? "c".toList = some .directory := by rfl
    exact (hstart evaluator 0).1 ((hfound none).mp (.unreadable hentry rfl)).symm
  · obtain ⟨path, found, hpath, hfound, hstart⟩ := start_all_or_nothing hcall fresh ⟨[], false⟩
    obtain rfl := (hpath _).mp (.belowHome (Or.inr rfl))
    have hentry : fresh.files.find? "/home/ann/.dicer/config.toml".toList = none := by rfl
    have hplan : RollPlan.ofPayload RollLimits.standard "11#d".toList = .error (.limit 10) := by
      decide +kernel
    obtain ⟨hgood, -, hprints⟩ :=
      (hstart evaluator 0).2 _ ((hfound _).mp (.absent hentry)).symm
    obtain ⟨houtput, -⟩ := (hprints _ _).mp (.replied (.refused hplan) (.done 0))
    refine ⟨hgood id, ?_⟩
    rw [← houtput]
    rfl

/-- Without any configuration a chat exits badly at a line that is no text. So does a roll if the
path of the configuration, where nothing lies, is that of the directory which is made for the log
before the configuration is looked for. -/
theorem start_exits_badly_under_standard_settings :
    let evaluator : Evaluator Nat := ⟨(· == 'd'), fun _ _ s => (.ok ⟨3, "1 + 2".toList⟩, s + 1)⟩
    let chat := ["chat".toList, "--direct".toList]
    let roll := ["roll".toList, "1+2".toList]
    let home := "home".toList
    let files : FileTree := .ofFiles [] [home]
    let logs := "logs".toList
    let named : Environment := ⟨openLog files (logDirectories logs), home, some logs⟩
    (files.find? (Configuration.path home none) = none ∧
        start evaluator 0 ⟨files, home, none⟩ chat ⟨[255, lineFeed], false⟩ = ⟨1, [], [], 0⟩) ∧
      files.find? logs = none ∧ start evaluator 0 named roll ⟨[], false⟩ = ⟨1, [], [], 0⟩ ∧
      (start evaluator 0 ⟨files, home, some logs⟩ roll ⟨[], false⟩).output =
        "player 投掷:\n1+2 = 1 + 2 = 3\n".toList := by
  intro evaluator chat roll home files logs named
  have hchat : Arguments.invocation chat = .ok (.perform (.chat none true)) := by rfl
  have hroll : Arguments.invocation roll =
      .ok (.perform (.roll (some "1+2".toList) none false none none)) := by rfl
  have hstandard : (Environment.settings ⟨files, home, none⟩).toOption = some .standard := by rfl
  have hunnamed : (Environment.settings ⟨files, home, some logs⟩).toOption = some .standard := by
    rfl
  have hnone : named.settings.toOption = none := by decide +kernel
  have hread : Text.ofBytes? [255] = none :=
    Text.ofBytes?_eq_none (Text.ne_bytes_of_mem List.mem_cons_self (by decide))
  have hlines : (⟨[255, lineFeed], false⟩ : StandardInput).lines = [none] := by
    have hpiece : lineFeed ∉ ([255] : List UInt8) := by decide
    have hcut := StandardInput.lines_behind_piece hpiece ⟨[], false⟩
    rwa [hread] at hcut
  refine ⟨⟨by decide +kernel, ?_⟩, by decide +kernel, ?_, ?_⟩
  · rw [start_perform hchat, hstandard]
    simp only [perform, hlines, runChat]
  · rw [start_perform hroll, hnone]
  · rw [start_perform hroll, hunnamed]
    decide +kernel

end Console

end DiceBot
