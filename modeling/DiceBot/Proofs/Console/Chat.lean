import DiceBot.Proofs.Bot.Stateless
import DiceBot.Proofs.Console.Replies

/-!
# Chat sessions on the console

Standard input is answered line by line, up to the first line that cannot be read. Each line has an
answer of its own, which is nothing or the reply to its request; the output is these answers one
after another, and no line that can be read, however its request fails, keeps the next from being
answered. So a session that was cut behind a line is two sessions, of which the second takes place
if all lines of the first can be read.
-/

namespace DiceBot

namespace Console

variable {σ : Type}

/-- What shows of an exit: its code and what was printed. -/
def Exit.shown (exit : Exit σ) : Nat × Text := (exit.code, exit.output)

/-- Without a memory, a line is answered alike whatever is remembered. -/
theorem printedAnswer_of_isStateless {bot : Bot σ} (h : bot.evaluator.IsStateless) (p : Player)
    (direct : Bool) (line : Text) (s s' : σ) :
    printedAnswer (answerLine bot p direct line s) =
      printedAnswer (answerLine bot p direct line s') := by
  obtain ⟨hresult, hsent⟩ := Bot.handleMessage_of_isStateless h channel p
    { bot.message line with addressed := (bot.message line).addressed || direct } s s'
  simp only [printedAnswer, answerLine, hresult, hsent]

/-- Without a memory, the answer to a line that makes a request is the reply to it, whatever is
remembered. -/
theorem exists_replies_of_isStateless {bot : Bot σ} (h : bot.evaluator.IsStateless) {direct : Bool}
    {line : Text} {request : RollRequest} (hrequest : request? bot direct line = some request)
    (p : Player) (s s₀ : σ) :
    ∃ s', Replies bot p request s (printedAnswer (answerLine bot p direct line s₀)) s' := by
  have hreply := replies_answerLine hrequest p s
  rw [printedAnswer_of_isStateless h p direct line s s₀] at hreply
  exact ⟨_, hreply⟩

/-- Without a memory, the lines are answered one by one up to the first that cannot be read. The
induction is on the lines. -/
theorem output_runChat {bot : Bot σ} (h : bot.evaluator.IsStateless) (p : Player) (direct : Bool)
    (ls : List (Option Text)) (s s₀ : σ) :
    (runChat bot p direct ls s).output =
      (readable ls).flatMap fun line => printedAnswer (answerLine bot p direct line s₀) := by
  induction ls generalizing s with
  | nil => rfl
  | cons line ls ih =>
    cases line with
    | none => simp [runChat, readable]
    | some line =>
      simp only [runChat, Exit.after, readable, List.flatMap_cons, ih,
        printedAnswer_of_isStateless h p direct line s s₀]

/-- A session takes up the lines behind some others where those left off, unless it ended there. The
induction is on the first lines, with what is remembered. -/
theorem runChat_append (bot : Bot σ) (p : Player) (direct : Bool) (ls ls' : List (Option Text))
    (s : σ) :
    runChat bot p direct (ls ++ ls') s =
      let exit := runChat bot p direct ls s
      if exit.code = 0 then (runChat bot p direct ls' exit.state).after exit.output exit.calls
      else exit := by
  induction ls generalizing s with
  | nil => rfl
  | cons line ls ih =>
    cases line with
    | none => rfl
    | some line =>
      have hrest := ih (answerLine bot p direct line s).state
      by_cases hcode : (runChat bot p direct ls (answerLine bot p direct line s).state).code = 0
      · simp only [hcode, if_true] at hrest
        simp [runChat, hrest, hcode, Exit.after]
      · simp only [hcode, if_false] at hrest
        simp [runChat, hrest, hcode, Exit.after]

/-- A session may be run on one part of its input after another: on the input up to a line feed and,
if it did not end there, on the rest with what is remembered then. So lines may be answered as they
come in. -/
theorem runChat_behind (bot : Bot σ) (p : Player) (direct : Bool) {bs : List UInt8}
    (h : bs = [] ∨ bs.getLast? = some lineFeed) (rest : StandardInput) (s : σ) :
    runChat bot p direct (rest.behind bs).lines s =
      let exit := runChat bot p direct (⟨bs, false⟩ : StandardInput).lines s
      if exit.code = 0 then
        (runChat bot p direct rest.lines exit.state).after exit.output exit.calls
      else exit := by
  rw [StandardInput.lines_behind h, runChat_append]

variable {evaluator : Evaluator σ} {e : Environment} {settings : Settings}
  {arguments : List Text} {user : Option Text} {direct : Bool}

/-- A program that is called for chat under settings in order answers its input. -/
theorem start_chat (hsettings : e.settings = .ok settings)
    (hcall : Arguments.invocation arguments = .ok (.perform (.chat user direct)))
    (input : StandardInput) (s : σ) :
    start evaluator s e arguments input =
      runChat ⟨settings, evaluator⟩ (player user none) direct input.lines s := by
  simp only [start, prepare, hcall, hsettings, perform]

/-- Without a memory, what shows of a session are the answers to the lines up to the first that
cannot be read, and whether there is one. -/
theorem shown_start_chat (hevaluator : evaluator.IsStateless)
    (hsettings : e.settings = .ok settings)
    (hcall : Arguments.invocation arguments = .ok (.perform (.chat user direct)))
    (input : StandardInput) (s s₀ : σ) :
    (start evaluator s e arguments input).shown =
      (if none ∈ input.lines then 1 else 0, (readable input.lines).flatMap fun line =>
        printedAnswer (answerLine ⟨settings, evaluator⟩ (player user none) direct line s₀)) := by
  have hbot : (⟨settings, evaluator⟩ : Bot σ).evaluator.IsStateless := hevaluator
  rw [start_chat hsettings hcall, Exit.shown, code_runChat, output_runChat hbot _ _ _ s s₀]

/-- A chat session is its lines one after another, if what the evaluator says of an expression does
not depend on what it remembers. On an input that was cut behind a line, the program prints what it
prints for either part alone and exits as for the second part, unless a line of the first part
cannot be read; then it exits badly there, as for the first part alone. It exits well exactly if all
lines can be read, and what it prints are the answers to the lines up to the first that cannot be.
The answer to a line is nothing if the line makes no request, and otherwise the reply to its
request. A line is what stands before a line feed, without one carriage return if that stands there,
or before the end of the input; it can be read if it is a text and reading does not fail. -/
theorem chat_concatenates (hevaluator : evaluator.IsStateless)
    (hsettings : e.settings = .ok settings)
    (hcall : Arguments.invocation arguments = .ok (.perform (.chat user direct))) (s₀ : σ) :
    let bot : Bot σ := ⟨settings, evaluator⟩
    let p := player user none
    let run (input : StandardInput) (s : σ) := (start evaluator s e arguments input).shown
    let answer (line : Text) := printedAnswer (answerLine bot p direct line s₀)
    (∀ (a : List UInt8) (b : StandardInput) (s s' s'' : σ), a = [] ∨ a.getLast? = some lineFeed →
      ((run ⟨a, false⟩ s').1 = 0 →
        run (b.behind a) s = ((run b s'').1, (run ⟨a, false⟩ s').2 ++ (run b s'').2)) ∧
      ((run ⟨a, false⟩ s').1 ≠ 0 → run (b.behind a) s = run ⟨a, false⟩ s')) ∧
    (∀ (input : StandardInput) (s : σ),
      run input s = (if none ∈ input.lines then 1 else 0, (readable input.lines).flatMap answer)) ∧
    (∀ (line : Text) (s : σ), (request? bot direct line = none → answer line = []) ∧
      ∀ request, request? bot direct line = some request →
        ∃ s', Replies bot p request s (answer line) s') ∧
    (∀ (line : Text) (rest : StandardInput) (s s' : σ), '\n' ∉ line →
      (line.getLast? ≠ some '\r' → run (rest.behind (line.bytes ++ [lineFeed])) s =
        ((run rest s').1, answer line ++ (run rest s').2)) ∧
      run (rest.behind ((line ++ ['\r']).bytes ++ [lineFeed])) s =
        ((run rest s').1, answer line ++ (run rest s').2) ∧
      (line ≠ [] → run ⟨line.bytes, false⟩ s = (0, answer line))) ∧
    ∀ (piece : List UInt8) (rest : StandardInput) (s : σ), lineFeed ∉ piece →
      ((∀ t : Text, piece ≠ t.bytes) →
        run (rest.behind (piece ++ [lineFeed])) s = (1, []) ∧ run ⟨piece, false⟩ s = (1, [])) ∧
      run ⟨piece, true⟩ s = (1, []) := by
  intro bot p run answer
  have hrun : ∀ (input : StandardInput) (s : σ), run input s =
      (if none ∈ input.lines then 1 else 0, (readable input.lines).flatMap answer) :=
    fun input s => shown_start_chat hevaluator hsettings hcall input s s₀
  refine ⟨?_, hrun, ?_, ?_, ?_⟩
  · intro a b s s' s'' ha
    have hlines := StandardInput.lines_behind ha b
    simp only [hrun, hlines, readable_append, List.mem_append]
    by_cases hfirst : none ∈ (⟨a, false⟩ : StandardInput).lines
    · simp [hfirst]
    · simp [hfirst]
  · intro line s
    refine ⟨fun hrequest => ?_, fun request hrequest => ?_⟩
    · exact congrArg printedAnswer (answerLine_of_none hrequest p s₀)
    · exact exists_replies_of_isStateless hevaluator hrequest p s s₀
  · intro line rest s s' hline
    refine ⟨?_, ?_, ?_⟩
    · intro hreturn
      have hlines := StandardInput.lines_behind_line hline rest
      rw [withoutReturn, if_neg hreturn] at hlines
      simp [hrun, hlines, readable]
    · have hreturn : '\n' ∉ line ++ ['\r'] := by simp [hline]
      have hlines := StandardInput.lines_behind_line hreturn rest
      rw [withoutReturn_append_return] at hlines
      simp [hrun, hlines, readable]
    · intro hne
      have hbytes : line.bytes ≠ [] := fun hnil => hne (Text.bytes_injective hnil)
      have hlines := StandardInput.lines_of_not_mem (lineFeed_not_mem_bytes hline) hbytes
      rw [Text.ofBytes?_bytes] at hlines
      simp [hrun, hlines, readable]
  · intro piece rest s hpiece
    refine ⟨?_, ?_⟩
    · intro hnone
      have hne : piece ≠ [] := hnone []
      have hread := Text.ofBytes?_eq_none hnone
      have hbehind := StandardInput.lines_behind_piece hpiece rest
      have halone := StandardInput.lines_of_not_mem hpiece hne
      rw [hread] at hbehind halone
      simp [hrun, hbehind, halone, readable]
    · have hlines := StandardInput.lines_of_fails hpiece
      simp [hrun, hlines, readable]

/-- A session of four lines, one hidden, one refused and one left alone, cut behind the second. -/
theorem chat_concatenates_four_lines :
    let evaluator : Evaluator Unit := ⟨(· == 'd'), fun _ t s => (.ok ⟨3, t⟩, s)⟩
    let e : Environment := ⟨fun _ => none, "/home/ann".toList, none⟩
    let arguments := ["chat".toList, "--user".toList, "ann".toList, "--direct".toList]
    let run (input : StandardInput) := (start evaluator () e arguments input).shown
    let a : StandardInput := .ofText "rh d6\r\n11#d\n".toList
    let b : StandardInput := .ofText "hello\n2#d".toList
    (evaluator.IsStateless ∧ e.settings = .ok .standard ∧
        Arguments.invocation arguments = .ok (.perform (.chat (some "ann".toList) true)) ∧
        a.bytes.getLast? = some lineFeed) ∧
      run b = (0, "ann 投掷:\n2#d = 3, 3\n".toList) ∧
      run (b.behind a.bytes) = (0, ("[private → ann] ann 投掷:\nd6 = d6 = 3\nann 投掷了暗骰。\n" ++
        "投掷次数必须是 1 到 10 之间的整数。\nann 投掷:\n2#d = 3, 3\n").toList) := by
  intro evaluator e arguments run a b
  have hevaluator : evaluator.IsStateless := fun _ _ _ _ => rfl
  have hsettings : e.settings = .ok .standard := by rfl
  have hcall : Arguments.invocation arguments =
      .ok (.perform (.chat (some "ann".toList) true)) := by rfl
  have hlast : a.bytes.getLast? = some lineFeed := by decide +kernel
  let answer (line : Text) : Text := printedAnswer
    (answerLine (⟨.standard, evaluator⟩ : Bot Unit) (player (some "ann".toList) none) true line ())
  have hhidden : answer "rh d6".toList =
      "[private → ann] ann 投掷:\nd6 = d6 = 3\nann 投掷了暗骰。\n".toList := by decide +kernel
  have hrefused : answer "11#d".toList =
      "投掷次数必须是 1 到 10 之间的整数。\n".toList := by decide +kernel
  have hignored : answer "hello".toList = [] := by decide +kernel
  have hrepeated : answer "2#d".toList = "ann 投掷:\n2#d = 3, 3\n".toList := by decide +kernel
  obtain ⟨hcut, -, -, hline, -⟩ := chat_concatenates hevaluator hsettings hcall ()
  let last : StandardInput := .ofText "2#d".toList
  let second : StandardInput := .ofText "11#d\n".toList
  have hempty : run ⟨[], false⟩ = (0, []) := by rfl
  have hlastLine : run last = (0, answer "2#d".toList) :=
    (hline "2#d".toList ⟨[], false⟩ () () (by decide)).2.2 (by decide)
  have hb : run b = ((run last).1, answer "hello".toList ++ (run last).2) :=
    (hline "hello".toList last () () (by decide)).1 (by decide)
  have hsecond : run second = ((run ⟨[], false⟩).1, answer "11#d".toList ++ (run ⟨[], false⟩).2) :=
    (hline "11#d".toList ⟨[], false⟩ () () (by decide)).1 (by decide)
  have hparts : a = second.behind (Text.bytes ("rh d6".toList ++ ['\r']) ++ [lineFeed]) := by
    decide +kernel
  have ha : run a = ((run second).1, answer "rh d6".toList ++ (run second).2) := by
    rw [hparts]
    exact (hline "rh d6".toList second () () (by decide)).2.1
  rw [hempty, hrefused] at hsecond
  rw [hsecond, hhidden] at ha
  rw [hlastLine, hignored, hrepeated] at hb
  have hwhole : run (b.behind a.bytes) = ((run b).1, (run a).2 ++ (run b).2) :=
    (hcut a.bytes b () () () (Or.inr hlast)).1 (congrArg Prod.fst ha)
  rw [ha, hb] at hwhole
  exact ⟨⟨hevaluator, hsettings, hcall, hlast⟩, hb, hwhole.trans (by decide +kernel)⟩

/-- A line that is no text ends a session before the next line is answered, and a private message
takes two lines. -/
theorem chat_stops_at_unreadable_line :
    let evaluator : Evaluator Unit := ⟨(· == 'd'), fun _ _ s => (.ok ⟨3, "1 + 2".toList⟩, s)⟩
    let e : Environment := ⟨fun _ => none, "/home/ann".toList, none⟩
    let arguments := ["chat".toList, "--direct".toList]
    let run (input : StandardInput) := (start evaluator () e arguments input).shown
    let a : List UInt8 := [255, lineFeed]
    let b : StandardInput := .ofText "r 1+2".toList
    (evaluator.IsStateless ∧ e.settings = .ok .standard ∧
        Arguments.invocation arguments = .ok (.perform (.chat none true)) ∧
        a.getLast? = some lineFeed) ∧
      run b = (0, "player 投掷:\n1+2 = 1 + 2 = 3\n".toList) ∧
      run ⟨a, false⟩ = (1, []) ∧ run (b.behind a) = (1, []) ∧
      run (b.behind a) ≠ (0, (run ⟨a, false⟩).2 ++ (run b).2) ∧
      run (.ofText "rh 1+2\n".toList) =
        (0, "[private → player] player 投掷:\n1+2 = 1 + 2 = 3\nplayer 投掷了暗骰。\n".toList) := by
  intro evaluator e arguments run a b
  have hsettings : e.settings = .ok .standard := by rfl
  have hcall : Arguments.invocation arguments = .ok (.perform (.chat none true)) := by rfl
  have hrun : ∀ input, run input =
      (runChat (⟨.standard, evaluator⟩ : Bot Unit) (player none none) true input.lines ()).shown :=
    fun input => congrArg Exit.shown (start_chat hsettings hcall input ())
  have hread : Text.ofBytes? [255] = none :=
    Text.ofBytes?_eq_none (Text.ne_bytes_of_mem List.mem_cons_self (by decide))
  have hpiece : lineFeed ∉ ([255] : List UInt8) := by decide
  have hlines : ∀ rest : StandardInput, (rest.behind a).lines = none :: rest.lines := by
    intro rest
    have hcut := StandardInput.lines_behind_piece hpiece rest
    rwa [hread] at hcut
  have hb : b.lines = [some "r 1+2".toList] := by
    have hlast := StandardInput.lines_of_not_mem
      (lineFeed_not_mem_bytes (show '\n' ∉ "r 1+2".toList by decide)) (by decide)
    rwa [Text.ofBytes?_bytes] at hlast
  have hhidden : (StandardInput.ofText "rh 1+2\n".toList).lines = [some "rh 1+2".toList] :=
    StandardInput.lines_behind_line (show '\n' ∉ "rh 1+2".toList by decide) ⟨[], false⟩
  have hshort : run ⟨a, false⟩ = (1, []) := by
    have hfirst : (⟨a, false⟩ : StandardInput).lines = [none] := hlines ⟨[], false⟩
    rw [hrun, hfirst]
    rfl
  have hwhole : run (b.behind a) = (1, []) := by
    rw [hrun, hlines b]
    rfl
  refine ⟨⟨fun _ _ _ _ => rfl, hsettings, hcall, rfl⟩, ?_, hshort, hwhole, ?_, ?_⟩
  · rw [hrun, hb]
    decide +kernel
  · rw [hwhole]
    exact fun h => absurd (congrArg Prod.fst h) (by decide)
  · rw [hrun, hhidden]
    decide +kernel

end Console

end DiceBot
