import DiceBot.Proofs.Chat.MarkedForm
import DiceBot.Proofs.Roll.Splitting

/-!
# Layout does not matter

Two texts with the same words ask for the same roll, whatever blanks stand between the words and
around them. Each rule looks at the first word only and at whether another follows: no character of
a marker, of a repeat count with its separator or of a bare die is a blank, and where a rule asks
what may come next, one blank does as well as another.
-/

namespace DiceBot

/-- Whether two texts are recognized by one rule and ask for the same but for the blanks between the
words of the payload. -/
structure Recognized.IsAlike (r r' : Recognized) : Prop where
  /-- The rules are the same. -/
  rule : r.rule = r'.rule
  /-- Both requests are hidden or neither. -/
  hidden : r.request.hidden = r'.request.hidden
  /-- The payloads have the same words. -/
  words : Text.words r.request.payload = Text.words r'.request.payload

namespace Text

/-- Whether two texts with the same words may stand behind a word: each begins with a blank, or both
are empty. -/
structure SameBehind (rest rest' : Text) : Prop where
  /-- The first text ends the word. -/
  isBreak : ∀ c ∈ rest.head?, isBlankChar c = true
  /-- So does the second. -/
  isBreak' : ∀ c ∈ rest'.head?, isBlankChar c = true
  /-- Nothing stands behind the word in both texts or in neither. -/
  nil_iff : rest = [] ↔ rest' = []
  /-- The words are the same. -/
  words : words rest = words rest'

namespace SameBehind

variable {rest rest' : Text}

theorem symm (h : SameBehind rest rest') : SameBehind rest' rest :=
  ⟨h.isBreak', h.isBreak, h.nil_iff.symm, h.words.symm⟩

/-- Behind the same characters the words stay the same. -/
theorem words_append (h : SameBehind rest rest') (lead : Text) :
    Text.words (lead ++ rest) = Text.words (lead ++ rest') := by
  rw [words_append_break h.isBreak, words_append_break h.isBreak', h.words]

end SameBehind

theorem TrimsTo.words_eq {t u : Text} (h : TrimsTo t u) : Text.words u = Text.words t := by
  rw [trimsTo_iff.mp h, words_trim]

/-- Two texts with the same words, the blanks at their ends taken off, are empty or begin with the
same word. -/
theorem trim_of_words_eq {t u : Text} (h : words t = words u) :
    (trim t = [] ∧ trim u = []) ∨
      ∃ word rest rest', IsWord word ∧ trim t = word ++ rest ∧ trim u = word ++ rest' ∧
        SameBehind rest rest' := by
  cases hws : words t with
  | nil =>
    left
    have hnil : ∀ {v : Text}, words v = [] → trim v = [] := by
      intro v hv
      cases words_eq_iff.mp hv with
      | nil hblank =>
        have htrim : trim (v ++ ([] ++ [])) = [] :=
          trim_blanks hblank isBlank_nil (isTrimmed_trim [])
        rwa [List.append_nil, List.append_nil] at htrim
    exact ⟨hnil hws, hnil (h.symm.trans hws)⟩
  | cons word ws =>
    right
    obtain ⟨rest, ht, hbreak, hrest, hnil⟩ :=
      exists_rest_of_words (isTrimmed_trim t) ((words_trim t).trans hws)
    obtain ⟨rest', hu, hbreak', hrest', hnil'⟩ :=
      exists_rest_of_words (isTrimmed_trim u) ((words_trim u).trans (h.symm.trans hws))
    have hword : IsWord word := isWord_of_mem_words (t := t) (by rw [hws]; exact List.mem_cons_self)
    exact ⟨word, rest, rest', hword, ht, hu, hbreak, hbreak', hnil.trans hnil'.symm,
      hrest.trans hrest'.symm⟩

end Text

namespace Recognition

variable {word rest rest' : Text} {r : Recognized}

theorem FollowsMarker.relaid (h : Text.SameBehind rest rest') (lead : Text)
    (hlead : FollowsMarker (lead ++ rest)) : FollowsMarker (lead ++ rest') := by
  have hletter : ∀ {c}, Text.isBlankChar c = true → Text.isLetter c = false :=
    Text.isLetter_of_isBlankChar
  match lead with
  | [] =>
    rcases Text.forall_head?_iff.mp h.isBreak' with hnil | ⟨c, t, hrest, hc⟩
    · rw [hnil]
      exact .nothing
    · rw [hrest]
      exact .noLetter (hletter hc)
  | [c] =>
    have hnotation : IsNotationLetter c → FollowsMarker (c :: rest') := by
      intro hc
      rcases Text.forall_head?_iff.mp h.isBreak' with hnil | ⟨d, t, hrest, hd⟩
      · rw [hnil]
        exact .letter hc
      · rw [hrest]
        exact .letterBefore hc (hletter hd)
    cases hlead with
    | noLetter hc => exact .noLetter hc
    | letter hc => exact hnotation hc
    | letterBefore hc hd => exact hnotation hc
  | c :: d :: lead =>
    cases hlead with
    | noLetter hc => exact .noLetter hc
    | letterBefore hc hd => exact .letterBefore hc hd

/-- What may follow a bare die does not begin with a blank, so that the word goes on or the text
ends. -/
theorem FollowsDie.relaid (h : Text.SameBehind rest rest') (lead : Text)
    (hlead : FollowsDie (lead ++ rest)) : FollowsDie (lead ++ rest') := by
  cases lead with
  | nil =>
    have hnil : rest = [] := by
      cases hlead with
      | nothing => rfl
      | @digit c rest hc =>
        have hdigit := Text.isDecimalDigit_of_isBlankChar (h.isBreak c rfl)
        exact absurd (hc.symm.trans hdigit) Bool.noConfusion
      | @sign c rest hc =>
        have hall : "+-*/()<>=!#".toList.all (fun d => !Text.isBlankChar d) = true := by decide
        have hsign := List.all_eq_true.mp hall c hc
        rw [h.isBreak c rfl] at hsign
        cases hsign
    rw [h.nil_iff.mp hnil]
    exact .nothing
  | cons c lead =>
    cases hlead with
    | digit hc => exact .digit hc
    | sign hc => exact .sign hc

/-- The letter of a family is no blank. -/
theorem IsFamilyLetter.isBlankChar {family c : Char} (h : IsFamilyLetter family c) :
    Text.isBlankChar c = false :=
  h.of_forall (P := fun c => Text.isBlankChar c = false) (by decide)

/-- No digit in front of a separator or of the letter of a die is a blank. -/
theorem isBlankChar_of_digits {digits : Text} {c : Char}
    (hdigits : ∀ d ∈ digits, Text.isDecimalDigit d = true) (hc : Text.isBlankChar c = false) :
    ∀ d ∈ digits ++ [c], Text.isBlankChar d = false := by
  intro d hd
  rcases List.mem_append.mp hd with hd | hd
  · exact Text.isBlankChar_of_isDecimalDigit (hdigits d hd)
  · rw [List.mem_singleton.mp hd]
    exact hc

/-- A rule that fits a text fits every other layout of it, and the same is asked for. The case split
is on the rule; each time what the rule looks for lies in the first word. -/
theorem Fits.relaid (hword : Text.IsWord word) (h : Text.SameBehind rest rest')
    (hfits : Fits (word ++ rest) r) : ∃ r', Fits (word ++ rest') r' ∧ r.IsAlike r' := by
  generalize hbody : word ++ rest = body at hfits
  cases hfits with
  | @command arguments ws hidden harguments hwords hhidden =>
    have hhead : ∀ {t : Text}, (∀ c ∈ t.head?, Text.isBlankChar c = true) →
        ∀ c ∈ t.head?, (!Text.isBlankChar c) = false := by
      intro t ht c hc
      rw [ht c hc]
      rfl
    have harguments' : ∀ c ∈ arguments.head?, Text.isBlankChar c = true :=
      Text.forall_head?_iff.mpr harguments
    obtain ⟨rfl, rfl⟩ := Text.append_inj_of_head (p := fun c => !Text.isBlankChar c)
      (fun c hc => by rw [hword.2 c hc]; rfl) (List.all_eq_true.mp (by decide))
      (hhead h.isBreak) (hhead harguments') hbody
    have hwords' : Text.HasWords rest' ws :=
      Text.words_eq_iff.mp (h.words.symm.trans (Text.words_of_hasWords hwords))
    exact ⟨_, .command (Text.forall_head?_iff.mp h.isBreak') hwords' hhidden, rfl, rfl, rfl⟩
  | @hidden after payload hafter hpayload =>
    obtain ⟨lead, rfl, rfl⟩ := Text.exists_of_word_append_eq h.isBreak
      (Text.not_blank_of_all (by decide)) hbody
    rw [List.append_assoc]
    refine ⟨_, .hidden (hafter.relaid h) (Text.trimsTo_iff.mpr rfl), rfl, rfl, ?_⟩
    rw [hpayload.words_eq, h.words_append, Text.words_trim]
  | @plain after payload hafter hpayload =>
    obtain ⟨lead, rfl, rfl⟩ := Text.exists_of_word_append_eq h.isBreak
      (Text.not_blank_of_all (by decide)) hbody
    rw [List.append_assoc]
    refine ⟨_, .plain (hafter.relaid h) (Text.trimsTo_iff.mpr rfl), rfl, rfl, ?_⟩
    rw [hpayload.words_eq, h.words_append, Text.words_trim]
  | @repeated digits after hne hdigits =>
    rw [List.append_cons] at hbody
    obtain ⟨lead, rfl, rfl⟩ := Text.exists_of_word_append_eq h.isBreak
      (isBlankChar_of_digits hdigits (by decide)) hbody
    simp only [List.append_assoc, List.singleton_append]
    refine ⟨_, .repeated hne hdigits, rfl, rfl, ?_⟩
    simpa using h.words_append (digits ++ '#' :: lead)
  | @die digits after family c hdigits hfamily hafter =>
    rw [List.append_cons] at hbody
    obtain ⟨lead, rfl, rfl⟩ := Text.exists_of_word_append_eq h.isBreak
      (isBlankChar_of_digits hdigits hfamily.isBlankChar) hbody
    simp only [List.append_assoc, List.singleton_append]
    refine ⟨_, .die hdigits hfamily (hafter.relaid h), rfl, rfl, ?_⟩
    simpa using h.words_append (digits ++ c :: lead)

/-- The first rule that fits a text is the first that fits any other layout of it. -/
theorem FitsFirst.relaid (hword : Text.IsWord word) (h : Text.SameBehind rest rest')
    (hfirst : FitsFirst (word ++ rest) r) : ∃ r', FitsFirst (word ++ rest') r' ∧ r.IsAlike r' := by
  obtain ⟨r', hfits, halike⟩ := hfirst.1.relaid hword h
  refine ⟨r', ⟨hfits, ?_⟩, halike⟩
  intro other hother
  obtain ⟨other', hother', hback⟩ := hother.relaid hword h.symm
  rw [← halike.rule, hback.rule]
  exact hfirst.2 other' hother'

theorem ofBody?_relaid (hword : Text.IsWord word) (h : Text.SameBehind rest rest') :
    Option.Rel Recognized.IsAlike (ofBody? (word ++ rest)) (ofBody? (word ++ rest')) := by
  cases hbody : ofBody? (word ++ rest) with
  | none =>
    have hnone : ofBody? (word ++ rest') = none := by
      rw [ofBody?_eq_none_iff]
      intro r' hr'
      obtain ⟨r, hr, -⟩ := hr'.relaid hword h.symm
      exact ofBody?_eq_none_iff.mp hbody r hr
    rw [hnone]
    exact .none
  | some r =>
    obtain ⟨r', hfirst, halike⟩ := (ofBody?_eq_some_iff.mp hbody).relaid hword h
    rw [ofBody?_eq_some_iff.mpr hfirst]
    exact .some halike

/-- Of two texts with the same words that address the bot both are recognized alike, or neither
is. -/
theorem classify_relaid {text text' : Text} (h : Text.words text = Text.words text') :
    Option.Rel Recognized.IsAlike (classify none true text) (classify none true text') := by
  rw [classify_addressed, classify_addressed]
  rcases Text.trim_of_words_eq h with ⟨hnil, hnil'⟩ | ⟨word, rest, rest', hword, ht, hu, hsame⟩
  · rw [hnil, hnil']
    exact .none
  · rw [ht, hu]
    exact ofBody?_relaid hword hsame

end Recognition

namespace Bot

variable {σ : Type} {bot : Bot σ} {channel : PrivateChannel} {player : Player} {r r' : Recognized}

/-- The layout of the payload is lost when it is split, so it does not show in the answer. -/
theorem execute_of_isAlike (h : r.IsAlike r') (s : σ) :
    bot.execute channel player r.request s = bot.execute channel player r'.request s := by
  have hmode : deliveryMode r.request = deliveryMode r'.request := by
    rw [deliveryMode, deliveryMode, h.hidden]
  have hprepare : bot.prepare player r.request s = bot.prepare player r'.request s := by
    simp only [prepare, RollPlan.ofPayload_congr h.words, hmode]
  simp only [execute, hprepare]

/-- Two messages that are recognized alike, or not at all, are answered alike. -/
theorem handleMessage_of_isAlike (m m' : Message)
    (h : Option.Rel Recognized.IsAlike m.recognize m'.recognize) (s : σ) :
    bot.handleMessage channel player m s = bot.handleMessage channel player m' s := by
  generalize hm : m.recognize = recognized at h
  generalize hm' : m'.recognize = recognized' at h
  cases h with
  | none => rw [handleMessage_of_none hm, handleMessage_of_none hm']
  | @some r r' halike =>
    have hsame := bot.passesOn_congr halike.rule
    cases hp : bot.passesOn r with
    | true =>
      rw [handleMessage_of_passesOn hm hp, handleMessage_of_passesOn hm' (hsame.symm.trans hp)]
    | false =>
      rw [handleMessage_of_recognize hm hp, handleMessage_of_recognize hm' (hsame.symm.trans hp),
        execute_of_isAlike halike]

/-- The layout of a text never changes a roll. Of two texts made up of the same words, with any
blanks between them and around them, both are recognized when they address the bot, by the same rule
and both or neither hidden, with payloads of the same words, or neither is recognized. Whatever the
settings, the evaluator and its state, the user and the way private messages go, the two are
answered alike: the same reply or failure, the same evaluations and the same private messages. -/
theorem layout_irrelevant {text text' : Text} {ws : List Text} (h : Text.HasWords text ws)
    (h' : Text.HasWords text' ws) :
    Option.Rel Recognized.IsAlike (Recognition.classify none true text)
        (Recognition.classify none true text') ∧
      ∀ {σ : Type} (bot : Bot σ) (channel : PrivateChannel) (player : Player) (s : σ),
        bot.handleMessage channel player ⟨text, none, true⟩ s =
          bot.handleMessage channel player ⟨text', none, true⟩ s := by
  have hwords : Text.words text = Text.words text' :=
    (Text.words_of_hasWords h).trans (Text.words_of_hasWords h').symm
  have hrel := Recognition.classify_relaid hwords
  exact ⟨hrel, fun bot channel player s =>
    handleMessage_of_isAlike ⟨text, none, true⟩ ⟨text', none, true⟩ hrel s⟩

/-- A hidden roll with a reason, over two lines and with an ideographic space in it. -/
theorem layout_irrelevant_lines :
    let text := "rh 3#d6 潜行".toList
    let text' := "\n rh\u30003#d6\r\n潜行\t".toList
    let ws := ["rh".toList, "3#d6".toList, "潜行".toList]
    let bot : Bot Nat := ⟨.standard, .scripted (· == 'd') [.ok ⟨3, ['3']⟩]⟩
    let player : Player := ⟨"7".toList, "alice".toList, none, none⟩
    let channel : PrivateChannel := fun _ => none
    (Text.HasWords text ws ∧ Text.HasWords text' ws) ∧
      Option.Rel Recognized.IsAlike (Recognition.classify none true text)
        (Recognition.classify none true text') ∧
      bot.handleMessage channel player ⟨text, none, true⟩ 0 =
        bot.handleMessage channel player ⟨text', none, true⟩ 0 := by
  intro text text' ws bot player channel
  have h : Text.HasWords text ws := Text.words_eq_iff.mp (by decide)
  have h' : Text.HasWords text' ws := Text.words_eq_iff.mp (by decide)
  obtain ⟨hrel, hanswer⟩ := layout_irrelevant h h'
  exact ⟨⟨h, h'⟩, hrel, hanswer bot channel player 0⟩

end Bot

end DiceBot
