import DiceBot.Proofs.Bot.Preparation
import DiceBot.Proofs.Chat.Rules
import DiceBot.Proofs.Text.Classes

/-!
# The marked form of a request

Whatever rule recognizes a message, the same is asked for by a marker with the payload behind it:
the marker of a hidden roll if the request is hidden, and that of a roll otherwise. The space
between marker and payload matters where the payload might run on into a word; a message that is a
repeat count or a bare die with what follows it may also stand right behind the marker.
-/

namespace DiceBot

namespace RollRequest

/-- The marker that asks for a request to be hidden or not. -/
def marker (request : RollRequest) : Text := if request.hidden then "rh".toList else "r".toList

/-- The rule that the marker of a request belongs to. -/
def markerRule (request : RollRequest) : Rule := if request.hidden then .hidden else .plain

/-- The marker of a request with a space and the payload behind it. -/
def marked (request : RollRequest) : Text := request.marker ++ ' ' :: request.payload

end RollRequest

namespace Recognition

/-- The payload of a request has no blanks at its ends. -/
theorem Fits.isTrimmed_payload {b : Text} {r : Recognized} (h : Fits b r)
    (hb : Text.IsTrimmed b) : Text.IsTrimmed r.request.payload := by
  cases h with
  | command harguments hwords hhidden =>
    refine Text.isTrimmed_join ?_
    intro word hword
    exact hwords.sound word (List.mem_filter.mp hword).1
  | hidden hrest hpayload => exact hpayload.isTrimmed
  | plain hrest hpayload => exact hpayload.isTrimmed
  | repeated hne hdigits => exact hb
  | die hdigits hfamily hrest => exact hb

theorem isTrimmed_body (commandPrefix : Option Text) (text : Text) :
    Text.IsTrimmed (body commandPrefix text) := Text.isTrimmed_trim _

/-- Without a command prefix the rules look at the text without the blanks at its ends. -/
theorem classify_addressed (text : Text) : classify none true text = ofBody? (Text.trim text) := by
  rw [← Text.trim_trimStart text]
  rfl

/-- What a message asks for is what a rule makes of its body. -/
theorem ofBody?_of_classify {commandPrefix : Option Text} {addressed : Bool} {text : Text}
    {r : Recognized} (h : classify commandPrefix addressed text = some r) :
    ofBody? (body commandPrefix text) = some r := by
  rw [classify, Option.ite_none_left_eq_some] at h
  exact h.2

/-- The marker of a hidden roll is what the first rule that fits looks for. -/
theorem ofBody?_hidden {rest : Text} (h : FollowsMarker rest) :
    ofBody? ("rh".toList ++ rest) = some ⟨.hidden, ⟨Text.trim rest, true⟩⟩ := by
  have hcommand : commandArguments? ("rh".toList ++ rest) = none := rfl
  have hmarker : afterMarker? hiddenMarker ("rh".toList ++ rest) = some rest :=
    afterMarker?_eq_some_iff.mpr ⟨rfl, mayFollowMarker_iff.mpr h⟩
  simp only [ofBody?, hcommand, hmarker]

/-- So is the marker of a roll, unless what follows makes it the beginning of the other marker or of
the explicit command. -/
theorem ofBody?_plain {rest : Text} (h : FollowsMarker rest)
    (hhead : ∀ c ∈ rest.head?, c ≠ 'h' ∧ c ≠ 'o') :
    ofBody? ("r".toList ++ rest) = some ⟨.plain, ⟨Text.trim rest, false⟩⟩ := by
  have hcommand : commandArguments? ("r".toList ++ rest) = none := by
    rw [Option.eq_none_iff_forall_ne_some]
    intro arguments harguments
    obtain ⟨hbody, -⟩ := commandArguments?_eq_some_iff.mp harguments
    obtain rfl : rest = "oll".toList ++ arguments := (List.cons.inj hbody).2
    exact (hhead 'o' rfl).2 rfl
  have hhidden : afterMarker? hiddenMarker ("r".toList ++ rest) = none := by
    rw [Option.eq_none_iff_forall_ne_some]
    intro payload hpayload
    obtain ⟨hbody, -⟩ := afterMarker?_eq_some_iff.mp hpayload
    obtain rfl : rest = 'h' :: payload := (List.cons.inj hbody).2
    exact (hhead 'h' rfl).1 rfl
  have hmarker : afterMarker? plainMarker ("r".toList ++ rest) = some rest :=
    afterMarker?_eq_some_iff.mpr ⟨rfl, mayFollowMarker_iff.mpr h⟩
  simp only [ofBody?, hcommand, hhidden, hmarker]

theorem isTrimmed_marker (request : RollRequest) : Text.IsTrimmed request.marker := by
  obtain ⟨payload, hidden⟩ := request
  cases hidden <;> exact ⟨by rintro c ⟨⟩; decide, by rintro c ⟨⟩; decide⟩

/-- Behind a marker nothing is left of a blank payload, and any other payload stands there as it is,
with the space before it. -/
theorem exists_trim_marked {request : RollRequest} (h : Text.IsTrimmed request.payload) :
    ∃ rest, Text.trim request.marked = request.marker ++ rest ∧
      Text.trim rest = request.payload ∧ FollowsMarker rest ∧
      ∀ c ∈ rest.head?, c ≠ 'h' ∧ c ≠ 'o' := by
  have hmarker := isTrimmed_marker request
  have hspace : Text.isBlank [' '] = true := by decide
  by_cases hempty : request.payload = []
  · refine ⟨[], ?_, by rw [hempty]; rfl, .nothing, fun c hc => by cases hc⟩
    rw [RollRequest.marked, hempty, List.append_nil]
    change Text.trim ([] ++ (request.marker ++ [' '])) = request.marker
    exact Text.trim_blanks rfl hspace hmarker
  · have hletter : Text.isLetter ' ' = false := Text.isLetter_of_isBlankChar (by decide)
    refine ⟨' ' :: request.payload, ?_, ?_, .noLetter hletter, ?_⟩
    · have hne : request.marker ≠ [] := by
        obtain ⟨payload, hidden⟩ := request
        cases hidden <;> exact List.cons_ne_nil _ _
      exact (hmarker.append [' '] h hne hempty).trim_eq
    · have htrim := Text.trim_blanks hspace Text.isBlank_nil h
      rwa [List.append_nil] at htrim
    · rintro c ⟨⟩
      decide

/-- The marked form of a request with a trimmed payload asks for that request. -/
theorem classify_marked {request : RollRequest} (h : Text.IsTrimmed request.payload) :
    classify none true request.marked = some ⟨request.markerRule, request⟩ := by
  obtain ⟨rest, htrim, hpayload, hfollows, hhead⟩ := exists_trim_marked h
  obtain ⟨payload, hidden⟩ := request
  rw [classify_addressed, htrim]
  cases hidden with
  | false => exact (ofBody?_plain hfollows hhead).trans (by rw [hpayload]; rfl)
  | true => exact (ofBody?_hidden hfollows).trans (by rw [hpayload]; rfl)

/-- Whether a rule takes the whole body for the payload. -/
def TakesAll (rule : Rule) : Prop := rule = .repeated ∨ ∃ family, rule = .die family

/-- The letter of a family is the letter of a notation. -/
theorem IsFamilyLetter.isNotationLetter {family c : Char} (h : IsFamilyLetter family c) :
    IsNotationLetter c ∧ c ≠ 'h' ∧ c ≠ 'o' := by
  rw [← isBasicLetter_iff]
  exact h.of_forall (P := fun c => isBasicLetter c = true ∧ c ≠ 'h' ∧ c ≠ 'o') (by decide)

/-- What may follow a bare die does not begin with a letter. -/
theorem FollowsDie.followsMarker {c : Char} {rest : Text} (hc : IsNotationLetter c)
    (h : FollowsDie rest) : FollowsMarker (c :: rest) := by
  cases h with
  | nothing => exact .letter hc
  | digit hd => exact .letterBefore hc (Text.isLetter_of_isDecimalDigit hd)
  | @sign d rest hd =>
    have hall : "+-*/()<>=!#".toList.all (fun d => !Text.isLetter d) = true := by decide +kernel
    have hno := List.all_eq_true.mp hall d hd
    exact .letterBefore hc (by simpa using hno)

/-- A decimal digit, and whatever stands behind it, may follow a marker. -/
theorem followsMarker_digit {c : Char} (hc : Text.isDecimalDigit c = true) (rest : Text) :
    FollowsMarker (c :: rest) ∧ c ≠ 'h' ∧ c ≠ 'o' := by
  refine ⟨.noLetter (Text.isLetter_of_isDecimalDigit hc), ?_, ?_⟩
  · rintro rfl
    exact absurd hc (by decide)
  · rintro rfl
    exact absurd hc (by decide)

/-- A repeat count or a bare die may follow the marker of a roll. -/
theorem Fits.followsMarker {b : Text} {r : Recognized} (h : Fits b r) (hr : TakesAll r.rule) :
    r.request = ⟨b, false⟩ ∧ FollowsMarker b ∧ b ≠ [] ∧ ∀ c ∈ b.head?, c ≠ 'h' ∧ c ≠ 'o' := by
  have hdigit {c : Char} {rest : Text} (hc : Text.isDecimalDigit c = true) :
      FollowsMarker (c :: rest) ∧ c :: rest ≠ [] ∧
        ∀ d ∈ (c :: rest).head?, d ≠ 'h' ∧ d ≠ 'o' := by
    obtain ⟨hfollows, hne⟩ := followsMarker_digit hc rest
    refine ⟨hfollows, List.cons_ne_nil c rest, ?_⟩
    rintro d ⟨⟩
    exact hne
  cases h with
  | command => simp [TakesAll] at hr
  | hidden => simp [TakesAll] at hr
  | plain => simp [TakesAll] at hr
  | @repeated digits rest hne hdigits =>
    refine ⟨rfl, ?_⟩
    cases digits with
    | nil => exact absurd rfl hne
    | cons d digits => exact hdigit (hdigits d List.mem_cons_self)
  | @die digits rest family c hdigits hfamily hrest =>
    refine ⟨rfl, ?_⟩
    cases digits with
    | nil =>
      obtain ⟨hletter, hne⟩ := hfamily.isNotationLetter
      refine ⟨hrest.followsMarker hletter, List.cons_ne_nil c rest, ?_⟩
      rintro d ⟨⟩
      exact hne
    | cons d digits => exact hdigit (hdigits d List.mem_cons_self)

/-- A message that is a repeat count or a bare die asks for the same right behind the marker of a
roll. -/
theorem classify_marker_append {b : Text} {r : Recognized} (h : Fits b r) (hb : Text.IsTrimmed b)
    (hr : TakesAll r.rule) :
    classify none true ("r".toList ++ r.request.payload) = some ⟨.plain, r.request⟩ := by
  obtain ⟨hrequest, hfollows, hne, hhead⟩ := h.followsMarker hr
  have hmarker : Text.IsTrimmed "r".toList := isTrimmed_marker ⟨[], false⟩
  have htrim := (hmarker.append [] hb (List.cons_ne_nil _ _) hne).trim_eq
  rw [hrequest, classify_addressed, show "r".toList ++ b = "r".toList ++ ([] ++ b) from rfl, htrim,
    List.nil_append, ofBody?_plain hfollows hhead, hb.trim_eq]

end Recognition

namespace Bot

variable {σ : Type}

/-- No marker is left to others. -/
theorem passesOn_markerRule (bot : Bot σ) (request : RollRequest) :
    bot.passesOn ⟨request.markerRule, request⟩ = false := by
  obtain ⟨payload, hidden⟩ := request
  cases hidden <;> rfl

end Bot

namespace Recognition

/-- Every shorthand comes to a marker. Whatever a text asks for, its payload has no blanks at its
ends, and the marker of the request with a space and the payload behind it asks for the same by the
rule of that marker; for a repeat count or a bare die so does the marker of a roll with the payload
right behind it. Unless the bot leaves the text to others, it answers each of these forms like the
text: the same reply, evaluations and private messages, whatever its evaluator remembers. -/
theorem shorthands_reduce_to_markers {commandPrefix : Option Text} {addressed : Bool} {text : Text}
    {r : Recognized} (h : classify commandPrefix addressed text = some r) :
    Text.IsTrimmed r.request.payload ∧
      classify none true r.request.marked = some ⟨r.request.markerRule, r.request⟩ ∧
      (TakesAll r.rule →
        classify none true ("r".toList ++ r.request.payload) = some ⟨.plain, r.request⟩) ∧
      ∀ {σ : Type} (bot : Bot σ) (channel : PrivateChannel) (player : Player) (s : σ),
        bot.passesOn r = false →
          bot.handleMessage channel player ⟨r.request.marked, none, true⟩ s =
              bot.handleMessage channel player ⟨text, commandPrefix, addressed⟩ s ∧
            (TakesAll r.rule →
              bot.handleMessage channel player ⟨"r".toList ++ r.request.payload, none, true⟩ s =
                bot.handleMessage channel player ⟨text, commandPrefix, addressed⟩ s) := by
  have hfits := (ofBody?_eq_some_iff.mp (ofBody?_of_classify h)).1
  have hbody := isTrimmed_body commandPrefix text
  have htrimmed := hfits.isTrimmed_payload hbody
  have hmarked := classify_marked htrimmed
  have htakesAll := classify_marker_append hfits hbody
  refine ⟨htrimmed, hmarked, htakesAll, ?_⟩
  intro σ bot channel player s hp
  constructor
  · exact Bot.handleMessage_of_request_eq channel player s hmarked h rfl
      (bot.passesOn_markerRule r.request) hp
  · intro hr
    exact Bot.handleMessage_of_request_eq channel player s (htakesAll hr) h rfl rfl hp

/-- A command with a flag among its words comes to the marker of a hidden roll, and a repeat count
in digits of another script to that of a roll. -/
theorem shorthands_reduce_to_markers_flag_and_count :
    let bot : Bot Nat := ⟨.standard, .scripted (· == 'd') [.ok ⟨3, ['3']⟩]⟩
    let player : Player := ⟨"7".toList, "alice".toList, none, none⟩
    let channel : PrivateChannel := fun _ => none
    let hidden : Recognized := ⟨.command, ⟨"3#d6 潜行".toList, true⟩⟩
    let repeated : Recognized := ⟨.repeated, ⟨"٣#d6".toList, false⟩⟩
    (classify (some ['.']) false " .roll  3#d6 --rh 潜行 ".toList = some hidden ∧
        bot.passesOn hidden = false ∧
        bot.handleMessage channel player ⟨"rh 3#d6 潜行".toList, none, true⟩ 0 =
          bot.handleMessage channel player ⟨" .roll  3#d6 --rh 潜行 ".toList, some ['.'], false⟩ 0) ∧
      (classify none true " ٣#d6".toList = some repeated ∧ TakesAll repeated.rule ∧
        bot.passesOn repeated = false ∧
        bot.handleMessage channel player ⟨"r٣#d6".toList, none, true⟩ 0 =
          bot.handleMessage channel player ⟨" ٣#d6".toList, none, true⟩ 0) := by
  intro bot player channel hidden repeated
  have hhidden : classify (some ['.']) false " .roll  3#d6 --rh 潜行 ".toList = some hidden := by
    decide +kernel
  have hrepeated : classify none true " ٣#d6".toList = some repeated := by decide +kernel
  obtain ⟨-, -, -, hanswer⟩ := shorthands_reduce_to_markers hhidden
  obtain ⟨-, -, -, hanswer'⟩ := shorthands_reduce_to_markers hrepeated
  exact ⟨⟨hhidden, rfl, (hanswer bot channel player 0 rfl).1⟩,
    hrepeated, Or.inl rfl, rfl, (hanswer' bot channel player 0 rfl).2 (Or.inl rfl)⟩

end Recognition

end DiceBot
