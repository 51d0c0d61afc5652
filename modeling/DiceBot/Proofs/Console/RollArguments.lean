import Mathlib.Tactic.SplitIfs
import DiceBot.Console.Program
import DiceBot.Proofs.Bot.Preparation
import DiceBot.Proofs.Chat.Rules
import DiceBot.Proofs.Roll.Splitting

/-!
# The arguments of a single roll

The console takes dice and reason as two arguments, and the option for a hidden roll apart from
them. The request is that of the explicit command all the same: the words of both arguments come one
after another, and among them flags count wherever they stand. So the two arguments are kept apart
if each is one word, and no longer are if a reason of several words is given.
-/

namespace DiceBot

namespace Arguments

/-- Two minus signs and nothing else end the options. -/
theorem Word.ofText_eq_endOfOptions_iff {t : Text} :
    Word.ofText t = .endOfOptions ↔ t = "--".toList := by
  constructor
  · intro h
    unfold ofText at h
    split at h
    · rfl
    · split at h <;> cases h
    · cases h
    · cases h
  · rintro rfl
    rfl

/-- The long name of an option stands behind two minus signs. -/
theorem Word.eq_of_ofText_eq_long {t name : Text} (h : Word.ofText t = .long name none) :
    t = '-' :: '-' :: name := by
  unfold ofText at h
  split at h
  · cases h
  · split at h
    · cases h
      rfl
    · cases h
  · cases h
  · cases h

/-- A plain argument stands for itself. -/
theorem Word.eq_of_ofText_eq_plain {t u : Text} (h : Word.ofText t = .plain u) : t = u := by
  unfold ofText at h
  split at h
  · cases h
  · split at h <;> cases h
  · cases h
  · cases h
    rfl

variable {signature : Signature}

namespace Parsed

/-- A flag may be given once. -/
theorem addFlag_eq_ok_iff {p q : Parsed} {name : Text} :
    p.addFlag name = .ok q ↔ name ∉ p.flags ∧ { p with flags := p.flags ++ [name] } = q := by
  rw [addFlag]
  split <;> simp_all

/-- An option may be given one value. -/
theorem addValue_eq_ok_iff {p q : Parsed} {name value : Text} :
    p.addValue name value = .ok q ↔ (p.values.lookup name).isSome = false ∧
      { p with values := p.values ++ [(name, value)] } = q := by
  rw [addValue]
  cases (p.values.lookup name).isSome <;> simp

/-- As many plain arguments may be given as there is a place for. -/
theorem addPositional_eq_ok_iff {p q : Parsed} {t : Text} :
    p.addPositional signature t = .ok q ↔ p.positionals.length < signature.positionals ∧
      { p with positionals := p.positionals ++ [t] } = q := by
  rw [addPositional]
  split <;> simp [*]

end Parsed

/-- How the arguments of a subcommand are read, from what was read before to what was read in the
end, if an option may await its value. -/
inductive Reads (signature : Signature) : Parsed → Option Text → List Text → Parsed → Prop
  | done (p : Parsed) : Reads signature p none [] p
  /-- Behind two minus signs nothing is an option. -/
  | ended {p q : Parsed} {t : Text} {ts : List Text} (ht : Word.ofText t = .endOfOptions)
      (hrest : ts.foldlM (Parsed.addPositional signature) p = .ok q) :
      Reads signature p none (t :: ts) q
  | flag {p next q : Parsed} {t name : Text} {ts : List Text}
      (ht : Word.ofText t = .long name none) (hkind : signature.options.lookup name = some .flag)
      (hadd : p.addFlag name = .ok next) (hrest : Reads signature next none ts q) :
      Reads signature p none (t :: ts) q
  /-- The value of an option stands behind an equals sign. -/
  | assigned {p next q : Parsed} {t name value : Text} {ts : List Text}
      (ht : Word.ofText t = .long name (some value))
      (hkind : signature.options.lookup name = some .valued)
      (hadd : p.addValue name value = .ok next) (hrest : Reads signature next none ts q) :
      Reads signature p none (t :: ts) q
  /-- The value of an option is the next argument. -/
  | awaiting {p q : Parsed} {t name : Text} {ts : List Text}
      (ht : Word.ofText t = .long name none)
      (hkind : signature.options.lookup name = some .valued)
      (hnew : (p.values.lookup name).isSome = false)
      (hrest : Reads signature p (some name) ts q) : Reads signature p none (t :: ts) q
  | awaited {p next q : Parsed} {t name value : Text} {ts : List Text}
      (ht : Word.ofText t = .plain value) (hadd : p.addValue name value = .ok next)
      (hrest : Reads signature next none ts q) : Reads signature p (some name) (t :: ts) q
  | positional {p next q : Parsed} {t u : Text} {ts : List Text} (ht : Word.ofText t = .plain u)
      (hadd : p.addPositional signature u = .ok next) (hrest : Reads signature next none ts q) :
      Reads signature p none (t :: ts) q

/-- What succeeds in two steps succeeds in each. -/
theorem bind_eq_ok {ε α β : Type} {x : Except ε α} {f : α → Except ε β} {b : β}
    (h : x.bind f = .ok b) : ∃ a, x = .ok a ∧ f a = .ok b := by
  cases x with
  | error e => cases h
  | ok a => exact ⟨a, rfl, h⟩

/-- The arguments that take the next one for their value. -/
theorem awaitsValue?_eq_some_iff {word : Word} {name : Text} :
    awaitsValue? signature word = some name ↔
      word = .long name none ∧ signature.options.lookup name = some .valued := by
  unfold awaitsValue?
  split
  · next other =>
    rw [Option.ite_none_right_eq_some, Option.some.injEq, Word.long.injEq]
    constructor
    · rintro ⟨hkind, rfl⟩
      exact ⟨⟨rfl, rfl⟩, hkind⟩
    · rintro ⟨⟨rfl, -⟩, hkind⟩
      exact ⟨hkind, rfl⟩
  · next hother => simpa using fun hword => absurd hword (hother name)

/-- An argument that awaits no value and does not end the options is one of three things. -/
theorem Parsed.add_eq_ok {p next : Parsed} {word : Word} (h : p.add signature word = .ok next)
    (hend : word ≠ .endOfOptions) :
    (∃ u, word = .plain u ∧ p.addPositional signature u = .ok next) ∨
      (∃ name, word = .long name none ∧ signature.options.lookup name = some .flag ∧
        p.addFlag name = .ok next) ∨
      ∃ name value, word = .long name (some value) ∧
        signature.options.lookup name = some .valued ∧ p.addValue name value = .ok next := by
  cases word with
  | endOfOptions => exact absurd rfl hend
  | plain u => exact Or.inl ⟨u, rfl, h⟩
  | short letters => cases h
  | long name value =>
    simp only [add] at h
    split at h
    · next hkind => exact Or.inr (Or.inl ⟨name, rfl, hkind, h⟩)
    · next v hkind => exact Or.inr (Or.inr ⟨name, v, rfl, hkind, h⟩)
    · cases h
    · cases h

/-- Arguments that are read without a fault are read in this way. -/
theorem reads_of_read {p q : Parsed} {awaiting : Option Text} {ts : List Text}
    (h : read signature p awaiting ts = .ok q) : Reads signature p awaiting ts q := by
  fun_induction read signature p awaiting ts with
  | case1 p =>
    obtain rfl := Except.ok.inj h
    exact .done p
  | case2 p name => cases h
  | case3 p name t ts value ht ih =>
    obtain ⟨next, hadd, hrest⟩ := bind_eq_ok h
    exact .awaited ht hadd (ih next hrest)
  | case4 p name t ts ht => cases h
  | case5 p t ts word ht => exact .ended ht h
  | case6 p t ts word name hawaits hgiven hend => cases h
  | case7 p t ts word name hawaits hnew hend ih =>
    obtain ⟨ht, hkind⟩ := awaitsValue?_eq_some_iff.mp hawaits
    exact .awaiting ht hkind (Bool.eq_false_iff.mpr hnew) (ih h)
  | case8 p t ts word hawaits hend ih =>
    obtain ⟨next, hadd, hrest⟩ := bind_eq_ok h
    obtain ⟨u, ht, hadd⟩ | ⟨name, ht, hkind, hadd⟩ | ⟨name, value, ht, hkind, hadd⟩ :=
      Parsed.add_eq_ok hadd hend
    · exact .positional ht hadd (ih next hrest)
    · exact .flag ht hkind hadd (ih next hrest)
    · exact .assigned ht hkind hadd (ih next hrest)

/-- The arguments before two minus signs end the options. -/
def beforeEnd (ts : List Text) : List Text := ts.takeWhile (· != "--".toList)

/-- Nothing stands before an end of the options that comes first. -/
theorem beforeEnd_cons_of_endOfOptions {t : Text} (ht : Word.ofText t = .endOfOptions)
    (ts : List Text) : beforeEnd (t :: ts) = [] := by
  rw [Word.ofText_eq_endOfOptions_iff.mp ht]
  rfl

/-- Any other argument stands before the end of the options. -/
theorem beforeEnd_cons {t : Text} (ht : Word.ofText t ≠ .endOfOptions) (ts : List Text) :
    beforeEnd (t :: ts) = t :: beforeEnd ts := by
  rw [ne_eq, Word.ofText_eq_endOfOptions_iff] at ht
  exact List.takeWhile_cons_of_pos (bne_iff_ne.mpr ht)

theorem mem_beforeEnd_cons_of_ne {t u : Text} (hend : Word.ofText u ≠ .endOfOptions)
    (hne : Word.ofText u ≠ Word.ofText t) (ts : List Text) :
    t ∈ beforeEnd (u :: ts) ↔ t ∈ beforeEnd ts := by
  rw [beforeEnd_cons hend, List.mem_cons, or_iff_right]
  rintro rfl
  exact hne rfl

/-- Plain arguments leave the flags as they are. -/
theorem flags_of_addPositionals {p q : Parsed} {ts : List Text}
    (h : ts.foldlM (Parsed.addPositional signature) p = .ok q) : q.flags = p.flags := by
  induction ts generalizing p with
  | nil =>
    obtain rfl := Except.ok.inj h
    rfl
  | cons t ts ih =>
    obtain ⟨next, hadd, hrest⟩ := bind_eq_ok h
    obtain ⟨-, rfl⟩ := Parsed.addPositional_eq_ok_iff.mp hadd
    have hflags := ih hrest
    exact hflags

/-- A flag was read exactly if its long name stands before the end of the options. -/
theorem Reads.mem_flags {p q : Parsed} {awaiting : Option Text} {ts : List Text}
    (h : Reads signature p awaiting ts q) {t name : Text}
    (hname : Word.ofText t = .long name none)
    (hkind : signature.options.lookup name = some .flag) :
    name ∈ q.flags ↔ name ∈ p.flags ∨ t ∈ beforeEnd ts := by
  induction h with
  | done p => simp [beforeEnd]
  | ended hu hrest =>
    rw [beforeEnd_cons_of_endOfOptions hu, flags_of_addPositionals hrest]
    simp
  | @flag p next q u other ts hu hother hadd hrest ih =>
    obtain ⟨-, rfl⟩ := Parsed.addFlag_eq_ok_iff.mp hadd
    have hsame : name = other ↔ t = u := by
      constructor
      · rintro rfl
        rw [Word.eq_of_ofText_eq_long hname, Word.eq_of_ofText_eq_long hu]
      · rintro rfl
        rw [hname] at hu
        cases hu
        rfl
    rw [ih, beforeEnd_cons (by simp [hu]), List.mem_append, List.mem_singleton, List.mem_cons,
      hsame, or_assoc]
  | assigned hu hother hadd hrest ih =>
    obtain ⟨-, rfl⟩ := Parsed.addValue_eq_ok_iff.mp hadd
    rw [ih, mem_beforeEnd_cons_of_ne (by simp [hu]) (by simp [hu, hname])]
  | @awaiting p q u other ts hu hother hnew hrest ih =>
    -- The name is that of an option with a value, so it is not the flag's.
    have hne : Word.ofText u ≠ Word.ofText t := by
      rw [hu, hname]
      rintro ⟨⟩
      cases hkind.symm.trans hother
    rw [ih, mem_beforeEnd_cons_of_ne (by simp [hu]) hne]
  | awaited hu hadd hrest ih =>
    -- A value is never read from what looks like an option, so the flag cannot hide there.
    obtain ⟨-, rfl⟩ := Parsed.addValue_eq_ok_iff.mp hadd
    rw [ih, mem_beforeEnd_cons_of_ne (by simp [hu]) (by simp [hu, hname])]
  | positional hu hadd hrest ih =>
    obtain ⟨-, rfl⟩ := Parsed.addPositional_eq_ok_iff.mp hadd
    rw [ih, mem_beforeEnd_cons_of_ne (by simp [hu]) (by simp [hu, hname])]

/-- A task of a subcommand is made of what is read of its arguments. -/
theorem read_of_subcommand {make : Parsed → Task} {task : Task} {ts : List Text}
    (h : subcommand signature make ts = .ok (.perform task)) :
    ∃ p, read signature .start none ts = .ok p ∧ make p = task := by
  unfold subcommand at h
  split at h
  · next p hp =>
    cases h
    exact ⟨p, hp, rfl⟩
  · cases h
  · cases h

/-- Asking for help comes to help. -/
theorem eq_help_of_helpOn {ts : List Text} {called : Invocation} (h : helpOn ts = .ok called) :
    called = .help := by
  unfold helpOn at h
  split at h
  · cases h
    rfl
  · split_ifs at h
    cases h
    rfl
  · cases h

/-- A call to answer one request is the name of the subcommand, followed by what it takes. -/
theorem reads_of_invocation_roll {arguments : List Text} {expression reason : Option Text}
    {hidden : Bool} {user nickname : Option Text}
    (h : invocation arguments = .ok (.perform (.roll expression reason hidden user nickname))) :
    ∃ ts p, arguments = "roll".toList :: ts ∧ Reads rollSignature .start none ts p ∧
      p.toRoll = .roll expression reason hidden user nickname := by
  cases arguments with
  | nil => cases h
  | cons t ts =>
    simp only [invocation] at h
    split at h
    · next name ht =>
      rw [Word.eq_of_ofText_eq_plain ht]
      split_ifs at h with hroll hchat hhelp
      · obtain ⟨p, hp, htask⟩ := read_of_subcommand h
        exact ⟨ts, p, by rw [hroll], reads_of_read hp, htask⟩
      · obtain ⟨p, -, htask⟩ := read_of_subcommand h
        cases htask
      · cases eq_help_of_helpOn h
    · split_ifs at h <;> cases h
    · cases h
    · cases h
    · cases h

/-- A roll is called hidden exactly if the option for it is given, before two minus signs end the
options. -/
theorem hidden_iff_of_invocation_roll {arguments : List Text} {expression reason : Option Text}
    {hidden : Bool} {user nickname : Option Text}
    (h : invocation arguments = .ok (.perform (.roll expression reason hidden user nickname))) :
    hidden = true ↔ "--rh".toList ∈ beforeEnd arguments := by
  obtain ⟨ts, p, rfl, hreads, htask⟩ := reads_of_invocation_roll h
  have hname : Word.ofText "--rh".toList = .long hiddenOption none := rfl
  have hflags := hreads.mem_flags hname (by decide)
  rw [Parsed.toRoll, Task.roll.injEq] at htask
  obtain ⟨-, -, rfl, -⟩ := htask
  rw [mem_beforeEnd_cons_of_ne (by decide) (by decide), List.contains_iff_mem, hflags]
  simp [Parsed.start]

end Arguments

namespace Console

/-- The words of dice and reason that do not ask for a hidden roll. -/
def otherWords (expression reason : Text) : List Text :=
  (Text.words expression ++ Text.words reason).filter (· ∉ ["-rh".toList, "--rh".toList])

/-- Dice and reason of one word each are kept apart, unless one of them is a flag. -/
theorem otherWords_pair {expression reason word why : Text}
    (hexpression : Text.words expression = [word]) (hreason : Text.words reason = [why])
    (hword : word ∉ ["-rh".toList, "--rh".toList]) (hwhy : why ∉ ["-rh".toList, "--rh".toList]) :
    otherWords expression reason = [word, why] ∧
      ¬∃ other ∈ Text.words expression ++ Text.words reason,
        other ∈ ["-rh".toList, "--rh".toList] := by
  rw [otherWords, hexpression, hreason, List.singleton_append]
  have hnone : ∀ other ∈ [word, why], other ∉ ["-rh".toList, "--rh".toList] := by
    intro other hmem
    rw [List.mem_cons, List.mem_singleton] at hmem
    rcases hmem with rfl | rfl
    · exact hword
    · exact hwhy
  constructor
  · exact List.filter_eq_self.mpr fun other hmem => decide_eq_true (hnone other hmem)
  · rintro ⟨other, hmem, hflag⟩
    exact hnone other hmem hflag

/-- Dice and reason together have the words of either. -/
theorem hasWords_arguments (expression reason : Text) :
    Text.HasWords (Text.join [' '] ((some expression).toList ++ (some reason).toList))
      (Text.words expression ++ Text.words reason) := by
  rw [← Text.words_eq_iff, Option.toList_some, Option.toList_some, List.singleton_append,
    Text.join_cons_cons, List.singleton_append, Text.words_append_blank (by decide)]
  simp [Text.join, List.intercalate]

/-- The request is that of the explicit command with the words of both arguments. -/
theorem request_eq (expression reason : Text) (hidden : Bool) :
    request (some expression) (some reason) hidden =
      ⟨Text.join [' '] (otherWords expression reason),
        decide (∃ word ∈ Text.words expression ++ Text.words reason,
          word ∈ ["-rh".toList, "--rh".toList]) || hidden⟩ := by
  rw [request, Recognition.ofArguments_eq (hasWords_arguments expression reason) decide_eq_true_iff]
  rfl

/-- The words of a request are those of dice and reason that do not ask for a hidden roll. -/
theorem words_request (expression reason : Text) (hidden : Bool) :
    Text.words (request (some expression) (some reason) hidden).payload =
      otherWords expression reason := by
  rw [request_eq]
  apply Text.words_join
  intro word hword
  rcases List.mem_append.mp (List.mem_filter.mp hword).1 with hmem | hmem
  · exact Text.isWord_of_mem_words hmem
  · exact Text.isWord_of_mem_words hmem

/-- The request is hidden if it is called so, or if a flag stands among the words. -/
theorem hidden_request (expression reason : Text) (hidden : Bool) :
    (request (some expression) (some reason) hidden).hidden = true ↔ hidden = true ∨
      ∃ word ∈ Text.words expression ++ Text.words reason,
        word ∈ ["-rh".toList, "--rh".toList] := by
  rw [request_eq, Bool.or_eq_true, decide_eq_true_iff, or_comm]

/-- The plan of the request is that of the first word alone, with the second for its reason. -/
theorem ofPayload_request (limits : RollLimits) (expression reason : Text) (hidden : Bool) :
    RollPlan.ofPayload limits (request (some expression) (some reason) hidden).payload =
      if 2 < (otherWords expression reason).length then .error (.format .tooManyTokens)
      else (RollPlan.ofPayload limits ((otherWords expression reason).headD [])).map fun plan =>
        { plan with reason := (otherWords expression reason)[1]? } := by
  rw [RollPlan.ofPayload_eq, words_request]

variable {σ : Type}

/-- A rendered text shows the second word for the reason, to the user alone if the request is
hidden. -/
theorem rendered_request {bot : Bot σ} {player : Player} {expression reason : Text} {hidden : Bool}
    {s : σ} {text : Text} {mode : DeliveryMode}
    (h : (bot.prepare player (request (some expression) (some reason) hidden) s).result =
      .ok ⟨text, mode⟩) :
    (mode = .privately ↔ (request (some expression) (some reason) hidden).hidden = true) ∧
      ∃ rest, text = Reply.attribution (bot.displayName player)
        (otherWords expression reason)[1]? ++ rest := by
  obtain ⟨plan, rest, hplan, rfl, rfl⟩ := Bot.prepare_ok h
  refine ⟨Bot.deliveryMode_eq_privately_iff, rest, ?_⟩
  rw [ofPayload_request] at hplan
  split at hplan
  · cases hplan
  · cases hfirst : RollPlan.ofPayload bot.settings.limits
        ((otherWords expression reason).headD []) with
    | error e =>
      rw [hfirst] at hplan
      cases hplan
    | ok first =>
      rw [hfirst] at hplan
      obtain rfl := Except.ok.inj hplan
      rfl

/-- For every call to answer one request with dice and reason: the request is hidden exactly if the
option for it is given, or a flag stands among the words of either argument. If more than two other
words are left, there are too many of them; otherwise the first says how often to roll and what, as
it does alone, and the text that is rendered begins with the line that gives the second for the
reason. So if either argument is one word and no flag, the dice are those that the first denotes
alone, or fail as they do, the line shows the word of the second, and the roll is hidden exactly if
the option is given. -/
theorem rollArguments_split {arguments : List Text} {expression reason : Text} {hidden : Bool}
    {user nickname : Option Text}
    (hcall : Arguments.invocation arguments =
      .ok (.perform (.roll (some expression) (some reason) hidden user nickname)))
    (bot : Bot σ) (s : σ) :
    let given := "--rh".toList ∈ Arguments.beforeEnd arguments
    let flags := ["-rh".toList, "--rh".toList]
    let words := Text.words expression ++ Text.words reason
    let others := otherWords expression reason
    let asked := request (some expression) (some reason) hidden
    let plan? := RollPlan.ofPayload bot.settings.limits
    let name := bot.displayName (player user nickname)
    let rendered := (bot.prepare (player user nickname) asked s).result
    (asked.hidden = true ↔ given ∨ ∃ word ∈ words, word ∈ flags) ∧
      (2 < others.length → plan? asked.payload = .error (.format .tooManyTokens)) ∧
      (others.length ≤ 2 → plan? asked.payload =
        (plan? (others.headD [])).map fun plan => { plan with reason := others[1]? }) ∧
      (∀ text mode, rendered = .ok ⟨text, mode⟩ → (mode = .privately ↔ asked.hidden = true) ∧
        ∃ rest, text = Reply.attribution name others[1]? ++ rest) ∧
      ∀ word why, Text.words expression = [word] → Text.words reason = [why] →
        word ∉ flags → why ∉ flags →
        (asked.hidden = true ↔ given) ∧
        plan? asked.payload =
          (plan? expression).map (fun plan => { plan with reason := some why }) ∧
        ∀ text mode, rendered = .ok ⟨text, mode⟩ → (mode = .privately ↔ given) ∧
          ∃ rest, text = name ++ " 因为 ".toList ++ why ++ " 投掷:\n".toList ++ rest := by
  intro given flags words others asked plan? name rendered
  have hhidden : asked.hidden = true ↔ given ∨ ∃ word ∈ words, word ∈ flags := by
    rw [hidden_request, Arguments.hidden_iff_of_invocation_roll hcall]
  have hplan := ofPayload_request bot.settings.limits expression reason hidden
  refine ⟨hhidden, ?_, ?_, fun text mode => rendered_request, ?_⟩
  · intro hlength
    rw [if_pos hlength] at hplan
    exact hplan
  · intro hlength
    rw [if_neg (Nat.not_lt.mpr hlength)] at hplan
    exact hplan
  · intro word why hexpression hreason hword hwhy
    obtain ⟨hothers, hnoflag⟩ := otherWords_pair hexpression hreason hword hwhy
    have hgiven : asked.hidden = true ↔ given := hhidden.trans (or_iff_left hnoflag)
    have hfirst : plan? word = plan? expression := by
      apply RollPlan.ofPayload_congr
      rw [hexpression, Text.words_of_mem_words (by rw [hexpression]; exact List.mem_cons_self)]
    refine ⟨hgiven, ?_, ?_⟩
    · rw [hothers] at hplan
      rw [← hfirst]
      exact hplan.trans (if_neg (Nat.lt_irrefl 2))
    · intro text mode h
      obtain ⟨hmode, rest, htext⟩ := rendered_request h
      rw [hothers] at htext
      exact ⟨hmode.trans hgiven, rest, htext⟩

/-- Three hidden rolls, with the option before the dice and blanks around the reason. -/
theorem rollArguments_split_thrice :
    let arguments :=
      ["roll".toList, "--rh".toList, "3#D6".toList, " 潜行 ".toList, "--user=ann".toList]
    let asked := request (some "3#D6".toList) (some " 潜行 ".toList) true
    let evaluator : Evaluator Unit := ⟨(· == 'd'), fun _ t s => (.ok ⟨3, t⟩, s)⟩
    let bot : Bot Unit := ⟨.standard, evaluator⟩
    let text := "ann 因为 潜行 投掷:\n3#D6 = 3, 3, 3".toList
    Arguments.invocation arguments = .ok (.perform
        (.roll (some "3#D6".toList) (some " 潜行 ".toList) true (some "ann".toList) none)) ∧
      (bot.prepare (player (some "ann".toList) none) asked ()).result = .ok ⟨text, .privately⟩ ∧
      "--rh".toList ∈ Arguments.beforeEnd arguments ∧
      RollPlan.ofPayload bot.settings.limits asked.payload =
        (RollPlan.ofPayload bot.settings.limits "3#D6".toList).map
          fun plan => { plan with reason := some "潜行".toList } := by
  intro arguments asked evaluator bot text
  have hcall : Arguments.invocation arguments = .ok (.perform
      (.roll (some "3#D6".toList) (some " 潜行 ".toList) true (some "ann".toList) none)) := by rfl
  have hprepare : (bot.prepare (player (some "ann".toList) none) asked ()).result =
      .ok ⟨text, .privately⟩ := by decide +kernel
  obtain ⟨-, hplan, hrendered⟩ := (rollArguments_split hcall bot ()).2.2.2.2 "3#D6".toList
    "潜行".toList (by decide) (by decide) (by decide) (by decide)
  exact ⟨hcall, hprepare, (hrendered text .privately hprepare).1.mp rfl, hplan⟩

/-- A reason of two words is not kept apart from the dice. Neither is one that looks like the flag,
even behind the end of the options. -/
theorem rollArguments_not_kept_apart :
    let dice := "1+2".toList
    let words := "sneak attack".toList
    let flag := "--rh".toList
    (Arguments.invocation ["roll".toList, dice, words] =
        .ok (.perform (.roll (some dice) (some words) false none none)) ∧
      RollPlan.ofPayload .standard dice = .ok ⟨1, dice, none⟩ ∧
      RollPlan.ofPayload .standard (request (some dice) (some words) false).payload =
        .error (.format .tooManyTokens)) ∧
    Arguments.invocation ["roll".toList, "--".toList, dice, flag] =
        .ok (.perform (.roll (some dice) (some flag) false none none)) ∧
      (request (some dice) (some flag) false).hidden = true ∧
      RollPlan.ofPayload .standard (request (some dice) (some flag) false).payload =
        .ok ⟨1, dice, none⟩ := by
  intro dice words flag
  have hwords : Arguments.invocation ["roll".toList, dice, words] =
      .ok (.perform (.roll (some dice) (some words) false none none)) := by rfl
  have hflag : Arguments.invocation ["roll".toList, "--".toList, dice, flag] =
      .ok (.perform (.roll (some dice) (some flag) false none none)) := by rfl
  exact ⟨⟨hwords, rfl, rfl⟩, hflag, rfl, rfl⟩

end Console

end DiceBot
