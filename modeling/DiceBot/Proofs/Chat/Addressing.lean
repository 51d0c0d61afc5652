import DiceBot.Proofs.Bot.Preparation
import DiceBot.Proofs.Chat.Rules

/-!
# Addressing the bot

A command prefix in front of a line, a mention of the bot with a blank behind it, and a conversation
in which every message is for the bot are three ways of saying the same: the rules look at the same
body, so the answers are the same. Prefixes and name are whatever the operator has chosen; the only
condition is that no prefix is read where none was meant.
-/

namespace DiceBot

namespace Message

/-- A text begins with a mention if the name stands behind the sign, and a blank or nothing behind
the name. -/
theorem afterMention?_eq_some_iff {botName t rest : Text} :
    afterMention? botName t = some rest ↔ botName ≠ [] ∧ t = '@' :: (botName ++ rest) ∧
      ∀ c ∈ rest.head?, Text.isBlankChar c = true := by
  rw [afterMention?, Option.ite_none_left_eq_some, Option.filter_eq_some_iff,
    Text.after?_eq_some_iff, List.isEmpty_iff]
  apply and_congr_right
  intro _
  apply and_congr_right
  intro _
  cases rest with
  | nil => simp
  | cons c rest => simp

/-- A name that runs on into a word is no mention. -/
theorem afterMention?_eq_none {botName : Text} {c : Char} (hc : Text.isBlankChar c = false)
    (rest : Text) : afterMention? botName ('@' :: (botName ++ c :: rest)) = none := by
  rw [Option.eq_none_iff_forall_ne_some]
  intro rest' hmention
  obtain ⟨-, hsplit, hblank⟩ := afterMention?_eq_some_iff.mp hmention
  obtain rfl := List.append_cancel_left (List.cons.inj hsplit).2
  exact Bool.false_ne_true (hc.symm.trans (hblank c rfl))

/-- Whether a text begins with none of some prefixes, the empty one apart. -/
def HasNoPrefix (prefixes : List Text) (t : Text) : Prop :=
  ∀ lead ∈ prefixes, lead ≠ [] → ∀ rest, t ≠ lead ++ rest

theorem matchPrefix?_eq_none {prefixes : List Text} {t : Text}
    (h : HasNoPrefix prefixes (Text.trimStart t)) : matchPrefix? prefixes t = none := by
  rw [matchPrefix?, List.find?_eq_none]
  intro lead hlead hmatch
  rw [Bool.and_eq_true, Bool.not_eq_true', List.isEmpty_eq_false_iff,
    Option.isSome_iff_exists] at hmatch
  obtain ⟨hne, rest, hrest⟩ := hmatch
  exact h lead hlead hne rest (Text.after?_eq_some_iff.mp hrest)

/-- No prefix that is found is empty. -/
theorem ne_nil_of_matchPrefix? {prefixes : List Text} {t lead : Text}
    (h : matchPrefix? prefixes t = some lead) : lead ≠ [] := by
  have hfound := List.find?_some h
  rw [Bool.and_eq_true, Bool.not_eq_true', List.isEmpty_eq_false_iff] at hfound
  exact hfound.1

variable {botName : Text} {prefixes : List Text} {before lead between body : Text}

/-- The message of a line with a prefix keeps the prefix in its text. -/
theorem ofLine_prefix (hbefore : Text.isBlank before = true)
    (hlead : ∀ c ∈ lead.head?, Text.isBlankChar c = false ∧ c ≠ '@')
    (hmatch : matchPrefix? prefixes (lead ++ body) = some lead) :
    ofLine botName prefixes (before ++ (lead ++ body)) = ⟨lead ++ body, some lead, false⟩ := by
  obtain ⟨c, lead, rfl⟩ := List.exists_cons_of_ne_nil (ne_nil_of_matchPrefix? hmatch)
  obtain ⟨hc, hsign⟩ := hlead c rfl
  have htrim : Text.trimStart (before ++ (c :: lead ++ body)) = c :: lead ++ body := by
    rw [Text.trimStart_blanks hbefore, List.cons_append, Text.trimStart_cons hc]
  have hmention : afterMention? botName (c :: lead ++ body) = none := by
    rw [Option.eq_none_iff_forall_ne_some]
    intro rest hrest
    obtain ⟨-, hsplit, -⟩ := afterMention?_eq_some_iff.mp hrest
    exact hsign (List.cons.inj hsplit).1
  simp only [ofLine, htrim, hmention, hmatch]

/-- The message of a line with a mention keeps neither the mention nor the blanks around it. -/
theorem ofLine_mention (hname : botName ≠ []) (hbefore : Text.isBlank before = true)
    (hbetween : Text.isBlank between = true) (hne : between ≠ [])
    (hbody : HasNoPrefix prefixes (Text.trimStart body)) :
    ofLine botName prefixes (before ++ '@' :: (botName ++ (between ++ body))) =
      ⟨Text.trimStart body, none, true⟩ := by
  have htrim : Text.trimStart (before ++ '@' :: (botName ++ (between ++ body))) =
      '@' :: (botName ++ (between ++ body)) := by
    rw [Text.trimStart_blanks hbefore, Text.trimStart_cons (by decide)]
  have hmention : afterMention? botName ('@' :: (botName ++ (between ++ body))) =
      some (between ++ body) := by
    refine afterMention?_eq_some_iff.mpr ⟨hname, rfl, ?_⟩
    obtain ⟨c, between, rfl⟩ := List.exists_cons_of_ne_nil hne
    rintro d ⟨⟩
    exact List.all_eq_true.mp hbetween c List.mem_cons_self
  have hprefix : matchPrefix? prefixes (Text.trimStart body) = none := by
    refine matchPrefix?_eq_none ?_
    rwa [Text.trimStart_trimStart]
  simp only [ofLine, htrim, hmention, Text.trimStart_blanks hbetween, hprefix]

/-- A line in which the name runs on into a word is taken as it is, and addresses nobody. -/
theorem ofLine_of_no_mention (hbefore : Text.isBlank before = true) {c : Char}
    (hc : Text.isBlankChar c = false) (rest : Text) :
    ofLine botName prefixes (before ++ '@' :: (botName ++ c :: rest)) =
      ⟨'@' :: (botName ++ c :: rest), matchPrefix? prefixes ('@' :: (botName ++ c :: rest)),
        false⟩ := by
  have htrim : Text.trimStart (before ++ '@' :: (botName ++ c :: rest)) =
      '@' :: (botName ++ c :: rest) := by
    rw [Text.trimStart_blanks hbefore, Text.trimStart_cons (by decide)]
  simp only [ofLine, htrim, afterMention?_eq_none hc]

/-- With a prefix in front, what is asked for is what the rest asks for. -/
theorem recognize_prefix (hlead : ∀ c ∈ lead.head?, Text.isBlankChar c = false ∧ c ≠ '@')
    (hne : lead ≠ []) (addressed : Bool) :
    recognize ⟨lead ++ body, some lead, addressed⟩ = Recognition.ofBody? (Text.trim body) := by
  obtain ⟨c, lead, rfl⟩ := List.exists_cons_of_ne_nil hne
  have htrim : Text.trimStart (c :: lead ++ body) = c :: lead ++ body := by
    rw [List.cons_append, Text.trimStart_cons (hlead c rfl).1]
  rw [recognize_of_isDirected (Or.inl rfl), Message.body, Recognition.body, htrim]
  simp only [Text.after?_append, Option.getD_some]

/-- So it is in a conversation that is for the bot. -/
theorem recognize_addressed (t : Text) :
    recognize ⟨t, none, true⟩ = Recognition.ofBody? (Text.trim t) := by
  rw [recognize_of_isDirected (Or.inr rfl), Message.body, Recognition.body, Text.trim_trimStart]

end Message

namespace Bot

/-- The ways of addressing the bot are interchangeable. If a text begins with no prefix, then a line
with a prefix in front of it, a line with a mention and a blank in front of it, and a message with
this text that is addressed to the bot are answered alike: the same reply, if any, the same
evaluations and the same private messages. A name with neither a blank nor the end of the line
behind it is no mention: the line is taken as it is and does not address the bot. -/
theorem addressing_interchangeable :
    (∀ {σ : Type} (bot : Bot σ) (channel : PrivateChannel) (player : Player) (s : σ)
      (before lead between body : Text), bot.settings.botName ≠ [] →
      Text.isBlank before = true → Text.isBlank between = true → between ≠ [] →
      Message.HasNoPrefix bot.settings.prefixes (Text.trimStart body) →
      (∀ c ∈ lead.head?, Text.isBlankChar c = false ∧ c ≠ '@') →
      Message.matchPrefix? bot.settings.prefixes (lead ++ body) = some lead →
        bot.handleLine channel player (before ++ (lead ++ body)) s =
            bot.handleMessage channel player ⟨body, none, true⟩ s ∧
          bot.handleLine channel player
              (before ++ '@' :: (bot.settings.botName ++ (between ++ body))) s =
            bot.handleMessage channel player ⟨body, none, true⟩ s) ∧
    (∀ {σ : Type} (bot : Bot σ) (before : Text) (c : Char) (rest : Text),
      Text.isBlank before = true → Text.isBlankChar c = false →
        (bot.message (before ++ '@' :: (bot.settings.botName ++ c :: rest))).text =
            '@' :: (bot.settings.botName ++ c :: rest) ∧
          (bot.message (before ++ '@' :: (bot.settings.botName ++ c :: rest))).addressed =
            false) := by
  constructor
  · intro σ bot channel player s before lead between body hname hbefore hbetween hne hbody hlead
      hmatch
    have hprefixed : Message.ofLine bot.settings.botName bot.settings.prefixes
        (before ++ (lead ++ body)) = _ := Message.ofLine_prefix hbefore hlead hmatch
    have hmentioned := Message.ofLine_mention hname hbefore hbetween hne hbody
    constructor
    · apply handleMessage_of_recognize_eq
      rw [message, hprefixed, Message.recognize_addressed,
        Message.recognize_prefix hlead (Message.ne_nil_of_matchPrefix? hmatch)]
    · apply handleMessage_of_recognize_eq
      rw [message, hmentioned, Message.recognize_addressed, Message.recognize_addressed,
        Text.trim_trimStart]
  · intro σ bot before c rest hbefore hc
    rw [message, Message.ofLine_of_no_mention hbefore hc]
    exact ⟨rfl, rfl⟩

/-- A bot whose name has a blank in it, with prefixes of which one begins another. -/
theorem addressing_interchangeable_overlapping :
    let settings : Settings := { Settings.standard with
      prefixes := [[], "!!".toList, "!".toList, "r6".toList], botName := "die fee".toList }
    let bot : Bot Nat := ⟨settings, .scripted (fun _ => true) [.ok ⟨3, ['3']⟩]⟩
    let player : Player := ⟨"7".toList, "alice".toList, none, none⟩
    let channel : PrivateChannel := fun _ => none
    let body := " rh2#d6 luck".toList
    let answer := bot.handleMessage channel player ⟨body, none, true⟩ 0
    (settings.botName ≠ [] ∧ Text.isBlank "\t".toList = true ∧ Text.isBlank " ".toList = true ∧
        " ".toList ≠ [] ∧
        Message.HasNoPrefix settings.prefixes (Text.trimStart body) ∧
        (∀ c ∈ "!!".toList.head?, Text.isBlankChar c = false ∧ c ≠ '@') ∧
        Message.matchPrefix? settings.prefixes ("!!".toList ++ body) = some "!!".toList) ∧
      (bot.handleLine channel player "\t!! rh2#d6 luck".toList 0 = answer ∧
        bot.handleLine channel player "\t@die fee  rh2#d6 luck".toList 0 = answer) ∧
      (Text.isBlankChar 's' = false ∧
        (bot.message "@die fees r6".toList).text = "@die fees r6".toList) := by
  intro settings bot player channel body answer
  have hbody : Message.HasNoPrefix settings.prefixes (Text.trimStart body) := by
    have hall : settings.prefixes.all
        (fun p => p.isEmpty || (Text.after? p (Text.trimStart body)).isNone) = true := by
      decide +kernel
    intro p hp hne rest hrest
    have hnone := List.all_eq_true.mp hall p hp
    rw [Text.after?_eq_some_iff.mpr hrest, Option.isNone_some, Bool.or_false,
      List.isEmpty_iff] at hnone
    exact hne hnone
  have hlead : ∀ c ∈ "!!".toList.head?, Text.isBlankChar c = false ∧ c ≠ '@' := by
    rintro c ⟨⟩
    decide
  have hmatch : Message.matchPrefix? settings.prefixes ("!!".toList ++ body) =
      some "!!".toList := by decide +kernel
  obtain ⟨hways, hnone⟩ := addressing_interchangeable
  have hboth := hways bot channel player 0 "\t".toList "!!".toList " ".toList body
    (List.cons_ne_nil _ _) (by decide) (by decide) (List.cons_ne_nil _ _) hbody hlead hmatch
  exact ⟨⟨List.cons_ne_nil _ _, by decide, by decide, List.cons_ne_nil _ _, hbody, hlead, hmatch⟩,
    hboth, by decide, (hnone bot [] 's' " r6".toList rfl (by decide)).1⟩

end Bot

end DiceBot
