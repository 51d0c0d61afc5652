import DiceBot.Chat.Message

/-!
# Asking for a hidden roll

A line directed at the bot asks for a hidden roll if its body begins with the marker of a hidden
roll, or is the explicit command with one of the flags among its words. Every recognized line that
asks for a hidden roll makes a hidden request, although what follows the marker of a plain roll may
begin with the last letter of the other marker; and no other line makes one.
-/

namespace DiceBot

/-- The part of a message that the rules look at. -/
def Message.body (m : Message) : Text := Recognition.body m.commandPrefix m.text

/-- Whether a message is directed at the bot, by a prefix or otherwise. -/
def Message.IsDirected (m : Message) : Prop := m.commandPrefix.isSome = true ∨ m.addressed = true

/-- The bodies that ask for a hidden roll. -/
inductive AsksHidden : Text → Prop
  /-- The body begins with the marker. -/
  | marked (rest : Text) : AsksHidden ("rh".toList ++ rest)
  /-- The body is the explicit command, and a flag stands among its words. -/
  | flagged (arguments word : Text)
      (hblank : ∃ c rest, arguments = c :: rest ∧ Text.isBlankChar c = true)
      (hword : word ∈ Text.words arguments) (hflag : word = "-rh".toList ∨ word = "--rh".toList) :
      AsksHidden ("roll".toList ++ arguments)

namespace Recognition

theorem isHiddenFlag_iff (word : Text) :
    RollRequest.isHiddenFlag word = true ↔ word = "-rh".toList ∨ word = "--rh".toList := by
  simp only [RollRequest.isHiddenFlag, RollRequest.hiddenFlags, List.contains_iff_mem,
    List.mem_cons, List.not_mem_nil, or_false]

/-- The arguments of the explicit command are what follows its word, if nothing or a blank does. -/
theorem commandArguments?_eq_some_iff {body arguments : Text} :
    commandArguments? body = some arguments ↔ body = "roll".toList ++ arguments ∧
      (arguments = [] ∨ ∃ c rest, arguments = c :: rest ∧ Text.isBlankChar c = true) := by
  rw [commandArguments?, Option.filter_eq_some_iff, Text.after?_eq_some_iff]
  apply and_congr_right
  intro _
  cases arguments with
  | nil => simp
  | cons c rest => simp

theorem afterMarker?_eq_some_iff {marker body payload : Text} :
    afterMarker? marker body = some payload ↔
      body = marker ++ payload ∧ mayFollowMarker payload = true := by
  rw [afterMarker?, Option.filter_eq_some_iff, Text.after?_eq_some_iff]

/-- No body with the marker of a hidden roll is taken for a plain one: what follows the shorter
marker begins with a letter, and may do so only if no word follows it. -/
theorem afterMarker?_plain_of_hidden {rest : Text}
    (h : afterMarker? hiddenMarker (hiddenMarker ++ rest) = none) :
    afterMarker? plainMarker (hiddenMarker ++ rest) = none := by
  have hrest : mayFollowMarker rest = false := by
    cases hm : mayFollowMarker rest with
    | false => rfl
    | true =>
      rw [afterMarker?_eq_some_iff.mpr ⟨rfl, hm⟩] at h
      cases h
  have hno : startsNoWord rest = false := (Bool.or_eq_false_iff.mp hrest).1
  have hplain : mayFollowMarker ('h' :: rest) = false := by
    have hletter : startsNoWord ('h' :: rest) = false := rfl
    simp only [mayFollowMarker, hletter, hno, Bool.and_false, Bool.or_false]
  cases hp : afterMarker? plainMarker (hiddenMarker ++ rest) with
  | none => rfl
  | some payload =>
    obtain ⟨he, hm⟩ := afterMarker?_eq_some_iff.mp hp
    obtain rfl : 'h' :: rest = payload := List.cons.inj he |>.2
    rw [hplain] at hm
    cases hm

/-- A body that asks for a hidden roll makes a hidden request, or is left to others. -/
theorem hidden_of_asksHidden {body : Text} (h : AsksHidden body) :
    ofBody? body = none ∨ ∃ payload rule, ofBody? body = some ⟨rule, ⟨payload, true⟩⟩ ∧
      (rule = .command ∨ rule = .hidden) := by
  cases h with
  | flagged arguments word hblank hword hflag =>
    right
    have hc := commandArguments?_eq_some_iff.mpr ⟨rfl, Or.inr hblank⟩
    have hany : (Text.words arguments).any RollRequest.isHiddenFlag = true :=
      List.any_eq_true.mpr ⟨word, hword, (isHiddenFlag_iff word).mpr hflag⟩
    refine ⟨(RollRequest.ofArguments arguments).payload, .command, ?_, Or.inl rfl⟩
    simp only [ofBody?, hc, RollRequest.ofArguments, hany]
  | marked rest =>
    rw [show "rh".toList = hiddenMarker from rfl]
    have hcommand : commandArguments? (hiddenMarker ++ rest) = none := rfl
    cases hh : afterMarker? hiddenMarker (hiddenMarker ++ rest) with
    | some payload =>
      right
      exact ⟨Text.trim payload, .hidden, by simp only [ofBody?, hcommand, hh], Or.inr rfl⟩
    | none =>
      left
      have hplain := afterMarker?_plain_of_hidden hh
      have hdigit : Text.isDecimalDigit 'r' = false := by decide
      have hfamily : family? 'r' = none := by decide
      have hrepeat : startsWithRepeatCount (hiddenMarker ++ rest) = false := by
        simp only [startsWithRepeatCount, hiddenMarker, List.cons_append, List.takeWhile_cons,
          hdigit, Bool.false_eq_true, if_false]
      have hdie : bareDie? (hiddenMarker ++ rest) = none := by
        simp only [bareDie?, hiddenMarker, List.cons_append, List.dropWhile_cons, hdigit,
          Bool.false_eq_true, if_false, hfamily, ite_self]
      simp only [ofBody?, hcommand, hh, hplain, hrepeat, hdie, Bool.false_eq_true, if_false,
        Option.map_none]

/-- Only a body that asks for a hidden roll makes a hidden request. -/
theorem asksHidden_of_hidden {body : Text} {r : Recognized} (h : ofBody? body = some r)
    (hr : r.request.hidden = true) : AsksHidden body := by
  unfold ofBody? at h
  split at h
  · next arguments hc =>
    obtain ⟨he, hblank⟩ := commandArguments?_eq_some_iff.mp hc
    obtain rfl := Option.some.inj h
    obtain ⟨word, hword, hflag⟩ := List.any_eq_true.mp hr
    rw [he]
    refine .flagged arguments word ?_ hword ((isHiddenFlag_iff word).mp hflag)
    refine hblank.resolve_left ?_
    rintro rfl
    cases hword
  · split at h
    · next payload hh =>
      rw [(afterMarker?_eq_some_iff.mp hh).1]
      exact .marked payload
    · split at h
      · obtain rfl := Option.some.inj h
        cases hr
      · split at h
        · obtain rfl := Option.some.inj h
          cases hr
        · obtain ⟨family, _, rfl⟩ := Option.map_eq_some_iff.mp h
          cases hr

end Recognition

namespace Message

theorem recognize_of_isDirected {m : Message} (h : m.IsDirected) :
    m.recognize = Recognition.ofBody? m.body := by
  have hd : (m.commandPrefix.isNone && !m.addressed) = false := by
    rcases h with h | h
    · simp [Option.isNone_eq_false_iff.mpr h]
    · simp [h]
  simp only [recognize, Recognition.classify, hd, Bool.false_eq_true, if_false, body]

/-- Only a message that is directed at the bot asks anything of it. -/
theorem isDirected_of_recognize {m : Message} {r : Recognized} (h : m.recognize = some r) :
    m.IsDirected := by
  simp only [recognize, Recognition.classify, Option.ite_none_left_eq_some] at h
  have hd := h.1
  by_cases hp : m.commandPrefix.isSome = true
  · exact Or.inl hp
  · right
    simp only [Bool.not_eq_true, Option.isSome_eq_false_iff] at hp
    simpa [hp] using hd

/-- A message makes a hidden request only if it is directed at the bot and asks for a hidden
roll. -/
theorem asksHidden_of_recognize {m : Message} {r : Recognized} (h : m.recognize = some r)
    (hr : r.request.hidden = true) : m.IsDirected ∧ AsksHidden m.body := by
  have hd := isDirected_of_recognize h
  rw [recognize_of_isDirected hd] at h
  exact ⟨hd, Recognition.asksHidden_of_hidden h hr⟩

end Message

end DiceBot
