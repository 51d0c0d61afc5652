import DiceBot.Console.Program
import DiceBot.Proofs.Chat.MarkedForm
import DiceBot.Proofs.Roll.Splitting

/-!
# The flags of the explicit command

A flag counts by being among the words of the explicit command, wherever it stands and however
often. The other words make up the payload in their order, so flags may be put in anywhere without
changing what is rolled. Written in a chat line, or given to the console with or without its option,
the command makes the same request.
-/

namespace DiceBot

namespace RollRequest

/-- Whether words are others with flags put in anywhere. -/
inductive WithFlags : List Text → List Text → Prop
  | nil : WithFlags [] []
  | word (word : Text) {ws ws' : List Text} (h : WithFlags ws ws') :
      WithFlags (word :: ws) (word :: ws')
  | flag {word : Text} {ws ws' : List Text} (hword : word ∈ ["-rh".toList, "--rh".toList])
      (h : WithFlags ws ws') : WithFlags ws (word :: ws')

namespace WithFlags

variable {ws ws' : List Text}

/-- The words that are no flags stay the same. -/
theorem filter_eq (h : WithFlags ws ws') :
    ws'.filter (· ∉ ["-rh".toList, "--rh".toList]) =
      ws.filter (· ∉ ["-rh".toList, "--rh".toList]) := by
  induction h with
  | nil => rfl
  | word word h ih => rw [List.filter_cons, List.filter_cons, ih]
  | @flag word ws ws' hword h ih =>
    have hout : ¬decide (word ∉ ["-rh".toList, "--rh".toList]) = true :=
      fun hnot => absurd hword (of_decide_eq_true hnot)
    rw [List.filter_cons, if_neg hout, ih]

theorem length_le (h : WithFlags ws ws') : ws.length ≤ ws'.length := by
  induction h with
  | nil => exact Nat.le_refl 0
  | word word h ih => exact Nat.succ_le_succ ih
  | flag hword h ih => exact Nat.le_succ_of_le ih

/-- A flag stands among the words if one did before or any was put in. -/
theorem exists_flag_iff (h : WithFlags ws ws') :
    (∃ word ∈ ws', word ∈ ["-rh".toList, "--rh".toList]) ↔
      (∃ word ∈ ws, word ∈ ["-rh".toList, "--rh".toList]) ∨ ws.length < ws'.length := by
  induction h with
  | nil => simp
  | word word h ih =>
    rw [List.exists_mem_cons_iff, List.exists_mem_cons_iff, ih, List.length_cons, List.length_cons,
      Nat.succ_lt_succ_iff, or_assoc]
  | flag hword h ih =>
    have hlonger := h.length_le
    rw [List.exists_mem_cons_iff]
    refine iff_of_true (Or.inl hword) (Or.inr ?_)
    rw [List.length_cons]
    omega

end WithFlags

theorem ofArguments_congr {t u : Text} (h : Text.words t = Text.words u) :
    ofArguments t = ofArguments u := by
  rw [ofArguments, ofArguments, h]

variable {arguments : Text} {ws : List Text}

/-- The request of the explicit command in terms of its words. -/
theorem ofArguments_of_hasWords (hws : Text.HasWords arguments ws) :
    ofArguments arguments =
      ⟨Text.join [' '] (ws.filter (· ∉ ["-rh".toList, "--rh".toList])),
        decide (∃ word ∈ ws, word ∈ ["-rh".toList, "--rh".toList])⟩ :=
  Recognition.ofArguments_eq hws decide_eq_true_iff

/-- The words of the payload are those that are no flags. -/
theorem words_payload (hws : Text.HasWords arguments ws) :
    Text.words (ofArguments arguments).payload =
      ws.filter (· ∉ ["-rh".toList, "--rh".toList]) := by
  rw [ofArguments_of_hasWords hws]
  refine Text.words_join ?_
  intro word hword
  exact hws.sound word (List.mem_filter.mp hword).1

/-- The payload taken for arguments again gives itself, and nothing is hidden. -/
theorem ofArguments_payload (arguments : Text) :
    ofArguments (ofArguments arguments).payload = ⟨(ofArguments arguments).payload, false⟩ := by
  have hws := Text.hasWords_words arguments
  have hpayload := Text.words_eq_iff.mp (words_payload hws)
  have hnone : ¬∃ word ∈ (Text.words arguments).filter (· ∉ ["-rh".toList, "--rh".toList]),
      word ∈ ["-rh".toList, "--rh".toList] := by
    rintro ⟨word, hmem, hflag⟩
    exact of_decide_eq_true (List.mem_filter.mp hmem).2 hflag
  rw [ofArguments_of_hasWords hpayload, List.filter_filter, decide_eq_false hnone,
    ofArguments_of_hasWords hws]
  simp only [Bool.and_self]

/-- A flag behind the arguments hides the roll as the option does. -/
theorem ofArguments_append_flag (arguments : Text) :
    ofArguments (arguments ++ " --rh".toList) = (ofArguments arguments).orHidden true := by
  have hwords : Text.words (arguments ++ " --rh".toList) =
      Text.words arguments ++ ["--rh".toList] :=
    Text.words_append_blank (by decide) arguments "--rh".toList
  have hout : ["--rh".toList].filter (!isHiddenFlag ·) = [] := by decide
  have hin : ["--rh".toList].any isHiddenFlag = true := by decide
  rw [ofArguments, hwords, List.filter_append, List.any_append, hout, hin, List.append_nil]
  rfl

end RollRequest

/-- The word of the command with a break behind it makes the request of the command, whatever the
arguments. -/
theorem Recognition.classify_command {blanks : Text} (hne : blanks ≠ [])
    (hblanks : Text.isBlank blanks = true) (arguments : Text) :
    classify none true ("roll".toList ++ (blanks ++ arguments)) =
      some ⟨.command, .ofArguments arguments⟩ := by
  obtain ⟨c, blanks, rfl⟩ := List.exists_cons_of_ne_nil hne
  have hbreak : ∀ d ∈ (c :: blanks ++ arguments).head?, Text.isBlankChar d = true := by
    rintro d ⟨⟩
    exact List.all_eq_true.mp hblanks c List.mem_cons_self
  have hwords : Text.words (Text.trim ("roll".toList ++ (c :: blanks ++ arguments))) =
      "roll".toList :: Text.words arguments := by
    have hword : Text.IsWord "roll".toList := ⟨by decide, Text.not_blank_of_all (by decide)⟩
    rw [Text.words_trim, Text.words_append hword.1 hword.2 hbreak, Text.words_blanks hblanks]
  obtain ⟨rest, htrim, hhead, hrest, -⟩ :=
    Text.exists_rest_of_words (Text.isTrimmed_trim _) hwords
  have hcommand := commandArguments?_eq_some_iff.mpr ⟨rfl, Text.forall_head?_iff.mp hhead⟩
  rw [classify_addressed, htrim, ofBody?, hcommand]
  simp only [RollRequest.ofArguments_congr hrest]

namespace Bot

variable {σ : Type}

/-- A chat line that is the explicit command is answered like the command given in any other way. -/
theorem perform_command_line (bot : Bot σ) (channel : PrivateChannel) (player : Player) (s : σ)
    {blanks : Text} (hne : blanks ≠ []) (hblanks : Text.isBlank blanks = true)
    (arguments : Text) {arguments' : Text} {hidden : Bool}
    (h : RollRequest.ofArguments arguments' = (RollRequest.ofArguments arguments).orHidden hidden) :
    bot.perform
        ⟨.message ⟨"roll".toList ++ (blanks ++ arguments'), none, true⟩, player, channel⟩ s =
      bot.perform ⟨.command arguments hidden, player, channel⟩ s := by
  have hrecognize : Message.recognize ⟨"roll".toList ++ (blanks ++ arguments'), none, true⟩ = _ :=
    Recognition.classify_command hne hblanks arguments'
  simp only [perform, handleMessage_of_recognize hrecognize rfl, h]

end Bot

namespace RollRequest

/-- For all arguments of the explicit command, which have one sequence of words: the request is
hidden exactly if a flag is among the words, and its payload is the other words in order, with
single spaces. Flags that are put in anywhere leave the payload as it is and hide the request. The
payload taken for arguments gives itself in the open, and its plan is that of any text with the
words that are no flags. A chat line that is the word of the command, blanks and the arguments makes
this request, and a flag behind the arguments hides it as the option of the console does, so the
command is answered alike wherever it is given. -/
theorem flags_count_by_membership (arguments : Text) :
    let flags := ["-rh".toList, "--rh".toList]
    let request := ofArguments arguments
    ∃ ws, (∀ ws', Text.HasWords arguments ws' ↔ ws' = ws) ∧
      (request.hidden = true ↔ ∃ word ∈ ws, word ∈ flags) ∧
      request.payload = Text.join [' '] (ws.filter (· ∉ flags)) ∧
      (∀ arguments' ws', WithFlags ws ws' → Text.HasWords arguments' ws' →
        (ofArguments arguments').payload = request.payload ∧
          ((ofArguments arguments').hidden = true ↔
            request.hidden = true ∨ ws.length < ws'.length)) ∧
      ofArguments request.payload = ⟨request.payload, false⟩ ∧
      (∀ limits t, Text.HasWords t (ws.filter (· ∉ flags)) →
        RollPlan.ofPayload limits request.payload = RollPlan.ofPayload limits t) ∧
      (∀ blanks, blanks ≠ [] → Text.isBlank blanks = true →
        Recognition.classify none true ("roll".toList ++ (blanks ++ arguments)) =
          some ⟨.command, request⟩) ∧
      ofArguments (arguments ++ " --rh".toList) = request.orHidden true ∧
      (∀ expression reason, Text.join [' '] (expression.toList ++ reason.toList) = arguments →
        Console.request expression reason false = request ∧
          Console.request expression reason true = ofArguments (arguments ++ " --rh".toList)) ∧
      ∀ {σ : Type} (bot : Bot σ) (channel : PrivateChannel) (player : Player) (s : σ) blanks,
        blanks ≠ [] → Text.isBlank blanks = true →
          bot.perform ⟨.message ⟨"roll".toList ++ (blanks ++ arguments), none, true⟩, player,
              channel⟩ s = bot.perform ⟨.command arguments false, player, channel⟩ s ∧
            bot.perform ⟨.message ⟨"roll".toList ++ (blanks ++ (arguments ++ " --rh".toList)), none,
                true⟩, player, channel⟩ s =
              bot.perform ⟨.command arguments true, player, channel⟩ s := by
  intro flags request
  have hws := Text.hasWords_words arguments
  have hrequest : request = _ := ofArguments_of_hasWords hws
  have hopen : request = request.orHidden false := by simp [orHidden]
  have hflag := ofArguments_append_flag arguments
  refine ⟨Text.words arguments, ?_, ?_, by rw [hrequest], ?_, ofArguments_payload arguments, ?_,
    fun blanks hne hblanks => Recognition.classify_command hne hblanks arguments, hflag, ?_, ?_⟩
  · intro ws'
    rw [← Text.words_eq_iff, eq_comm]
  · rw [hrequest, decide_eq_true_iff]
  · intro arguments' ws' hwith hws'
    rw [ofArguments_of_hasWords hws', hrequest, hwith.filter_eq, decide_eq_true_iff,
      decide_eq_true_iff]
    exact ⟨rfl, hwith.exists_flag_iff⟩
  · intro limits t ht
    refine RollPlan.ofPayload_congr ?_
    rw [words_payload hws, Text.words_of_hasWords ht]
  · rintro expression reason rfl
    exact ⟨hopen.symm, hflag.symm⟩
  · intro σ bot channel player s blanks hne hblanks
    exact ⟨bot.perform_command_line channel player s hne hblanks arguments hopen,
      bot.perform_command_line channel player s hne hblanks arguments hflag⟩

/-- Two flags put among the words of a repeated roll with a reason, with other blanks between them,
and behind the word of the command an ideographic space. -/
theorem flags_count_by_membership_scattered :
    let arguments := "3#d6 潜行".toList
    let arguments' := "--rh\t3#d6 -rh  潜行\n".toList
    let ws := ["3#d6".toList, "潜行".toList]
    let ws' := ["--rh".toList, "3#d6".toList, "-rh".toList, "潜行".toList]
    let bot : Bot Nat := ⟨.standard, .scripted (· == 'd') [.ok ⟨3, ['3']⟩]⟩
    let player : Player := ⟨"7".toList, "alice".toList, none, none⟩
    let channel : PrivateChannel := fun _ => none
    (Text.HasWords arguments ws ∧ Text.HasWords arguments' ws' ∧ WithFlags ws ws') ∧
      (ofArguments arguments' = ⟨"3#d6 潜行".toList, true⟩ ∧
        RollPlan.ofPayload .standard "3#d6 潜行".toList =
          RollPlan.ofPayload .standard "\t3#d6   潜行\n".toList) ∧
      (Text.isBlank ['\u3000'] = true ∧
        bot.perform ⟨.message ⟨"roll\u30003#d6 潜行 --rh".toList, none, true⟩, player, channel⟩ 0 =
          bot.perform ⟨.command arguments true, player, channel⟩ 0) := by
  intro arguments arguments' ws ws' bot player channel
  have hwords : Text.HasWords arguments ws := Text.words_eq_iff.mp (by decide)
  have hwords' : Text.HasWords arguments' ws' := Text.words_eq_iff.mp (by decide)
  have hcut : Text.HasWords "\t3#d6   潜行\n".toList ws := Text.words_eq_iff.mp (by decide)
  have hwith : WithFlags ws ws' :=
    .flag (by decide) (.word _ (.flag (by decide) (.word _ .nil)))
  obtain ⟨_, hunique, -, -, hinserted, -, hplan, -, -, -, hanswer⟩ :=
    flags_count_by_membership arguments
  obtain rfl := (hunique ws).mp hwords
  obtain ⟨hpayload, hhidden⟩ := hinserted arguments' ws' hwith hwords'
  have hrequest : ofArguments arguments' = ⟨"3#d6 潜行".toList, true⟩ := by
    rw [← hhidden.mpr (Or.inr (by decide))]
    exact congrArg (RollRequest.mk · _) hpayload
  exact ⟨⟨hwords, hwords', hwith⟩, ⟨hrequest, hplan .standard _ hcut⟩, by decide,
    (hanswer bot channel player 0 ['\u3000'] (by decide) (by decide)).2⟩

end RollRequest

end DiceBot
