import DiceBot.Proofs.Chat.HiddenRequest
import DiceBot.Proofs.Text.Words

/-!
# The rules of recognition

Which bodies each of the five rules fits, and what is then asked for, stated by how the body is made
up. Several rules may fit one body; the first in order decides. A text is recognized exactly if it
is directed at the bot and some rule fits its body.
-/

namespace DiceBot

/-- The place of a rule in the order in which the rules are tried. -/
def Rule.rank : Rule → Nat
  | command => 0
  | hidden => 1
  | plain => 2
  | repeated => 3
  | die _ => 4

namespace Recognition

/-- The body of a text: what is left of it without its leading blanks and the command prefix, if it
begins with that, and then without the blanks at the ends. -/
inductive BodyOf : Option Text → Text → Text → Prop
  | whole {text start body : Text} (hstart : Text.StartsAt text start)
      (hbody : Text.TrimsTo start body) : BodyOf none text body
  | stripped {lead text rest body : Text} (hstart : Text.StartsAt text (lead ++ rest))
      (hbody : Text.TrimsTo rest body) : BodyOf (some lead) text body
  | unstripped {lead text start body : Text} (hstart : Text.StartsAt text start)
      (hlead : ∀ rest, start ≠ lead ++ rest) (hbody : Text.TrimsTo start body) :
      BodyOf (some lead) text body

/-- Whether a character is a letter from a to z in either case, the long s or the Kelvin sign. -/
def IsNotationLetter (c : Char) : Prop :=
  ('a' ≤ c ∧ c ≤ 'z') ∨ ('A' ≤ c ∧ c ≤ 'Z') ∨ c = '\u017F' ∨ c = '\u212A'

/-- The texts that may follow a marker. -/
inductive FollowsMarker : Text → Prop
  | nothing : FollowsMarker []
  | noLetter {c : Char} {rest : Text} (hc : Text.isLetter c = false) : FollowsMarker (c :: rest)
  | letter {c : Char} (hc : IsNotationLetter c) : FollowsMarker [c]
  | letterBefore {c d : Char} {rest : Text} (hc : IsNotationLetter c)
      (hd : Text.isLetter d = false) : FollowsMarker (c :: d :: rest)

/-- The families of dice, each with its small and its capital letter. -/
def familyLetters : List (Char × Char) :=
  [('d', 'D'), ('p', 'P'), ('a', 'A'), ('c', 'C'), ('f', 'F')]

/-- Whether a character is the letter of a family in either case. -/
def IsFamilyLetter (family c : Char) : Prop :=
  ∃ letters ∈ familyLetters, family = letters.1 ∧ (c = letters.1 ∨ c = letters.2)

/-- The texts that may follow the letter of a bare die. -/
inductive FollowsDie : Text → Prop
  | nothing : FollowsDie []
  | digit {c : Char} {rest : Text} (hc : Text.isDecimalDigit c = true) : FollowsDie (c :: rest)
  | sign {c : Char} {rest : Text} (hc : c ∈ "+-*/()<>=!#".toList) : FollowsDie (c :: rest)

/-- Whether a rule fits a body, and what is then asked for. The explicit command asks for its words
without the flags, separated by single spaces. -/
inductive Fits : Text → Recognized → Prop
  | command {arguments : Text} {words : List Text} {hidden : Bool}
      (harguments : arguments = [] ∨ ∃ c rest, arguments = c :: rest ∧ Text.isBlankChar c = true)
      (hwords : Text.HasWords arguments words)
      (hhidden : hidden = true ↔ ∃ word ∈ words, word ∈ ["-rh".toList, "--rh".toList]) :
      Fits ("roll".toList ++ arguments) ⟨.command,
        ⟨Text.join [' '] (words.filter (· ∉ ["-rh".toList, "--rh".toList])), hidden⟩⟩
  | hidden {rest payload : Text} (hrest : FollowsMarker rest)
      (hpayload : Text.TrimsTo rest payload) : Fits ("rh".toList ++ rest) ⟨.hidden, ⟨payload, true⟩⟩
  | plain {rest payload : Text} (hrest : FollowsMarker rest)
      (hpayload : Text.TrimsTo rest payload) : Fits ("r".toList ++ rest) ⟨.plain, ⟨payload, false⟩⟩
  | repeated {digits rest : Text} (hne : digits ≠ [])
      (hdigits : ∀ c ∈ digits, Text.isDecimalDigit c = true) :
      Fits (digits ++ '#' :: rest) ⟨.repeated, ⟨digits ++ '#' :: rest, false⟩⟩
  | die {digits rest : Text} {family c : Char}
      (hdigits : ∀ d ∈ digits, Text.isDecimalDigit d = true) (hfamily : IsFamilyLetter family c)
      (hrest : FollowsDie rest) :
      Fits (digits ++ c :: rest) ⟨.die family, ⟨digits ++ c :: rest, false⟩⟩

/-- Whether a rule is the first that fits a body. -/
def FitsFirst (body : Text) (r : Recognized) : Prop :=
  Fits body r ∧ ∀ r', Fits body r' → r.rule.rank ≤ r'.rule.rank

/-- Whether a body is the explicit command with a flag among its words. -/
def HasFlag (body : Text) : Prop :=
  ∃ arguments words, body = "roll".toList ++ arguments ∧ Text.HasWords arguments words ∧
    ∃ word ∈ words, word ∈ ["-rh".toList, "--rh".toList]

theorem bodyOf_iff {commandPrefix : Option Text} {text b : Text} :
    BodyOf commandPrefix text b ↔ b = body commandPrefix text := by
  constructor
  · intro h
    cases h with
    | whole hstart hbody =>
      rw [Text.trimsTo_iff.mp hbody, Text.startsAt_iff.mp hstart]
      rfl
    | @stripped lead _ rest _ hstart hbody =>
      have hafter := Text.after?_append lead rest
      rw [Text.startsAt_iff.mp hstart] at hafter
      rw [Text.trimsTo_iff.mp hbody]
      simp [body, hafter]
    | @unstripped lead _ start _ hstart hlead hbody =>
      have hafter : Text.after? lead start = none := by
        cases hrest : Text.after? lead start with
        | none => rfl
        | some rest => exact absurd (Text.after?_eq_some_iff.mp hrest) (hlead rest)
      rw [Text.startsAt_iff.mp hstart] at hafter
      rw [Text.trimsTo_iff.mp hbody, Text.startsAt_iff.mp hstart]
      simp [body, hafter]
  · rintro rfl
    have hstart := Text.startsAt_trimStart text
    cases commandPrefix with
    | none => exact .whole hstart (Text.trimsTo_iff.mpr rfl)
    | some lead =>
      cases hafter : Text.after? lead (Text.trimStart text) with
      | none =>
        refine .unstripped hstart ?_ (Text.trimsTo_iff.mpr (by simp [body, hafter]))
        intro rest hrest
        rw [Text.after?_eq_some_iff.mpr hrest] at hafter
        cases hafter
      | some rest =>
        rw [Text.after?_eq_some_iff.mp hafter] at hstart
        exact .stripped hstart (Text.trimsTo_iff.mpr (by simp [body, hafter]))

theorem isBasicLetter_iff {c : Char} : isBasicLetter c = true ↔ IsNotationLetter c := by
  have halpha : c.isAlpha = (decide ('A' ≤ c ∧ c ≤ 'Z') ||
      (decide ('a' ≤ c) && decide (c ≤ 'z'))) := rfl
  simp [isBasicLetter, IsNotationLetter, halpha, or_assoc, or_comm, or_left_comm]

theorem mayFollowMarker_iff {t : Text} : mayFollowMarker t = true ↔ FollowsMarker t := by
  constructor
  · intro h
    cases t with
    | nil => exact .nothing
    | cons c rest =>
      simp only [mayFollowMarker, startsNoWord, Bool.or_eq_true, Bool.and_eq_true,
        Bool.not_eq_true', isBasicLetter_iff] at h
      rcases h with hc | ⟨hc, hrest⟩
      · exact .noLetter hc
      · cases rest with
        | nil => exact .letter hc
        | cons d rest => exact .letterBefore hc (by simpa [startsNoWord] using hrest)
  · intro h
    cases h with
    | nothing => rfl
    | noLetter hc => simp [mayFollowMarker, startsNoWord, hc]
    | letter hc => simp [mayFollowMarker, startsNoWord, isBasicLetter_iff.mpr hc]
    | letterBefore hc hd => simp [mayFollowMarker, startsNoWord, isBasicLetter_iff.mpr hc, hd]

theorem family?_eq_some_iff {family c : Char} :
    family? c = some family ↔ IsFamilyLetter family c := by
  constructor
  · intro h
    rw [family?, Option.ite_none_right_eq_some, Option.some.injEq] at h
    obtain ⟨hmem, rfl⟩ := h
    rw [List.contains_iff_mem] at hmem
    have hfamilies : families.all (fun d => Nat.blt d.toNat 0x80) = true := by decide
    have hc : c.toNat < 0x80 := by
      by_cases hcapital : c.val ≥ 'A'.val ∧ c.val ≤ 'Z'.val
      · have hle : c.toNat ≤ 90 := UInt32.le_iff_toNat_le.mp hcapital.2
        omega
      · have hsame : c.toLower = c := dif_neg hcapital
        rw [hsame] at hmem
        exact Nat.blt_eq.mp (List.all_eq_true.mp hfamilies c hmem)
    exact Text.of_toNat_lt (P := fun c => c.toLower ∈ families → IsFamilyLetter c.toLower c)
      (by unfold IsFamilyLetter; decide) hc hmem
  · rintro ⟨letters, hmem, rfl, hc⟩
    have hall : ∀ letters ∈ familyLetters, family? letters.1 = some letters.1 ∧
        family? letters.2 = some letters.1 := by decide
    rcases hc with rfl | rfl
    · exact (hall letters hmem).1
    · exact (hall letters hmem).2

theorem mayFollowDie_iff {t : Text} : mayFollowDie t = true ↔ FollowsDie t := by
  constructor
  · intro h
    cases t with
    | nil => exact .nothing
    | cons c rest =>
      simp only [mayFollowDie, Bool.or_eq_true, List.contains_iff_mem] at h
      rcases h with hdigit | hsign
      · exact .digit hdigit
      · exact .sign hsign
  · intro h
    cases h with
    | nothing => rfl
    | digit hc => simp [mayFollowDie, hc]
    | sign hc =>
      simp only [mayFollowDie, Bool.or_eq_true, List.contains_iff_mem]
      exact Or.inr hc

theorem startsWithRepeatCount_iff {b : Text} :
    startsWithRepeatCount b = true ↔ ∃ digits rest, digits ≠ [] ∧
      (∀ c ∈ digits, Text.isDecimalDigit c = true) ∧ b = digits ++ '#' :: rest := by
  constructor
  · intro h
    unfold startsWithRepeatCount at h
    split at h
    · next c digits rest htake hdrop =>
      refine ⟨c :: digits, rest, List.cons_ne_nil c digits, ?_, ?_⟩
      · rw [← htake]
        exact List.all_eq_true.mp List.all_takeWhile
      · rw [← htake, ← hdrop, List.takeWhile_append_dropWhile]
    · cases h
  · rintro ⟨digits, rest, hne, hdigits, rfl⟩
    have hseparator : ∀ c ∈ ('#' :: rest).head?, Text.isDecimalDigit c = false := by
      rintro c ⟨⟩
      decide
    obtain ⟨htake, hdrop⟩ := Text.takeWhile_dropWhile_append hdigits hseparator
    cases digits with
    | nil => exact absurd rfl hne
    | cons c digits => simp only [startsWithRepeatCount, htake, hdrop]

/-- What holds of the letters of the families holds of the letter of a family. -/
theorem IsFamilyLetter.of_forall {P : Char → Prop}
    (hall : ∀ letters ∈ familyLetters, P letters.1 ∧ P letters.2) {family c : Char}
    (h : IsFamilyLetter family c) : P c := by
  obtain ⟨letters, hmem, -, hc⟩ := h
  rcases hc with rfl | rfl
  · exact (hall letters hmem).1
  · exact (hall letters hmem).2

/-- No family has a digit for a letter. -/
theorem IsFamilyLetter.isDecimalDigit {family c : Char} (h : IsFamilyLetter family c) :
    Text.isDecimalDigit c = false :=
  h.of_forall (P := fun c => Text.isDecimalDigit c = false) (by decide)

theorem bareDie?_eq_some_iff {b : Text} {family : Char} :
    bareDie? b = some family ↔ ∃ digits c rest, (∀ d ∈ digits, Text.isDecimalDigit d = true) ∧
      IsFamilyLetter family c ∧ FollowsDie rest ∧ b = digits ++ c :: rest := by
  constructor
  · intro h
    unfold bareDie? at h
    split at h
    · cases h
    · next c rest hdrop =>
      rw [Option.ite_none_right_eq_some, mayFollowDie_iff, family?_eq_some_iff] at h
      obtain ⟨digits, hdigits, hb, -⟩ := Text.dropWhile_eq_iff.mp hdrop
      exact ⟨digits, c, rest, hdigits, h.2, h.1, hb⟩
  · rintro ⟨digits, c, rest, hdigits, hfamily, hrest, rfl⟩
    have hdrop : (digits ++ c :: rest).dropWhile Text.isDecimalDigit = c :: rest := by
      rw [Text.dropWhile_eq_iff]
      refine ⟨digits, hdigits, rfl, ?_⟩
      rintro d ⟨⟩
      exact hfamily.isDecimalDigit
    simp only [bareDie?, hdrop, mayFollowDie_iff.mpr hrest, if_true]
    exact family?_eq_some_iff.mpr hfamily

/-- What the rule with a place in the order asks for alone. -/
def fit? (b : Text) : (rank : Nat) → Option Recognized
  | 0 => (commandArguments? b).map fun arguments => ⟨.command, .ofArguments arguments⟩
  | 1 => (afterMarker? hiddenMarker b).map fun rest => ⟨.hidden, ⟨Text.trim rest, true⟩⟩
  | 2 => (afterMarker? plainMarker b).map fun rest => ⟨.plain, ⟨Text.trim rest, false⟩⟩
  | 3 => if startsWithRepeatCount b then some ⟨.repeated, ⟨b, false⟩⟩ else none
  | _ => (bareDie? b).map fun family => ⟨.die family, ⟨b, false⟩⟩

/-- The rules are tried in order. -/
theorem ofBody?_eq (b : Text) : ofBody? b = (List.range 5).findSome? (fit? b) := by
  have hrange : List.range 5 = [0, 1, 2, 3, 4] := by decide
  simp only [hrange, ofBody?, fit?, List.findSome?_cons, List.findSome?_nil]
  cases commandArguments? b <;> cases afterMarker? hiddenMarker b <;>
    cases afterMarker? plainMarker b <;> cases startsWithRepeatCount b <;> cases bareDie? b <;> rfl

/-- What the explicit command asks for with words as arguments. -/
theorem ofArguments_eq {arguments : Text} {words : List Text} {hidden : Bool}
    (hwords : Text.HasWords arguments words)
    (hhidden : hidden = true ↔ ∃ word ∈ words, word ∈ ["-rh".toList, "--rh".toList]) :
    RollRequest.ofArguments arguments =
      ⟨Text.join [' '] (words.filter (· ∉ ["-rh".toList, "--rh".toList])), hidden⟩ := by
  have hflag : ∀ word, RollRequest.isHiddenFlag word =
      decide (word ∈ ["-rh".toList, "--rh".toList]) := by
    intro word
    simp [RollRequest.isHiddenFlag, RollRequest.hiddenFlags]
  rw [RollRequest.ofArguments, Text.words_of_hasWords hwords]
  congr 1
  · simp only [hflag, decide_not]
  · rw [Bool.eq_iff_iff, hhidden, List.any_eq_true]
    simp only [hflag, decide_eq_true_eq]

/-- A rule that fits a body makes something of it. -/
theorem fit?_of_fits {b : Text} {r : Recognized} (h : Fits b r) : fit? b r.rule.rank = some r := by
  cases h with
  | command harguments hwords hhidden =>
    have hcommand := commandArguments?_eq_some_iff.mpr ⟨rfl, harguments⟩
    simp only [Rule.rank, fit?, hcommand, Option.map_some, ofArguments_eq hwords hhidden]
  | @hidden rest payload hrest hpayload =>
    have hmarker : afterMarker? hiddenMarker ("rh".toList ++ rest) = some rest :=
      afterMarker?_eq_some_iff.mpr ⟨rfl, mayFollowMarker_iff.mpr hrest⟩
    simp only [Rule.rank, fit?, hmarker, Option.map_some, ← Text.trimsTo_iff.mp hpayload]
  | @plain rest payload hrest hpayload =>
    have hmarker : afterMarker? plainMarker ("r".toList ++ rest) = some rest :=
      afterMarker?_eq_some_iff.mpr ⟨rfl, mayFollowMarker_iff.mpr hrest⟩
    simp only [Rule.rank, fit?, hmarker, Option.map_some, ← Text.trimsTo_iff.mp hpayload]
  | @repeated digits rest hne hdigits =>
    have hrepeat := startsWithRepeatCount_iff.mpr ⟨digits, rest, hne, hdigits, rfl⟩
    simp only [Rule.rank, fit?, hrepeat, if_true]
  | @die digits rest family c hdigits hfamily hrest =>
    have hdie := bareDie?_eq_some_iff.mpr ⟨digits, c, rest, hdigits, hfamily, hrest, rfl⟩
    simp only [Rule.rank, fit?, hdie, Option.map_some]

/-- The explicit command fits what it makes a request of. -/
theorem fits_of_command {b : Text} {request : RollRequest}
    (h : fit? b Rule.command.rank = some ⟨.command, request⟩) : Fits b ⟨.command, request⟩ := by
  simp only [Rule.rank, fit?, Option.map_eq_some_iff, Recognized.mk.injEq, true_and] at h
  obtain ⟨arguments, hcommand, rfl⟩ := h
  obtain ⟨rfl, harguments⟩ := commandArguments?_eq_some_iff.mp hcommand
  have hwords := Text.hasWords_words arguments
  have hhidden := @decide_eq_true_iff
    (∃ word ∈ Text.words arguments, word ∈ ["-rh".toList, "--rh".toList]) inferInstance
  rw [ofArguments_eq hwords hhidden]
  exact .command harguments hwords hhidden

/-- A rule that makes something of a body fits it. -/
theorem fits_of_fit? {b : Text} {r : Recognized} (h : fit? b r.rule.rank = some r) : Fits b r := by
  obtain ⟨rule, request⟩ := r
  cases rule with
  | command => exact fits_of_command h
  | hidden =>
    simp only [Rule.rank, fit?, Option.map_eq_some_iff, Recognized.mk.injEq, true_and] at h
    obtain ⟨rest, hmarker, rfl⟩ := h
    obtain ⟨rfl, hrest⟩ := afterMarker?_eq_some_iff.mp hmarker
    exact .hidden (mayFollowMarker_iff.mp hrest) (Text.trimsTo_iff.mpr rfl)
  | plain =>
    simp only [Rule.rank, fit?, Option.map_eq_some_iff, Recognized.mk.injEq, true_and] at h
    obtain ⟨rest, hmarker, rfl⟩ := h
    obtain ⟨rfl, hrest⟩ := afterMarker?_eq_some_iff.mp hmarker
    exact .plain (mayFollowMarker_iff.mp hrest) (Text.trimsTo_iff.mpr rfl)
  | repeated =>
    simp only [Rule.rank, fit?, Option.ite_none_right_eq_some, Option.some.injEq,
      Recognized.mk.injEq, true_and] at h
    obtain ⟨hrepeat, rfl⟩ := h
    obtain ⟨digits, rest, hne, hdigits, rfl⟩ := startsWithRepeatCount_iff.mp hrepeat
    exact .repeated hne hdigits
  | die family =>
    simp only [Rule.rank, fit?, Option.map_eq_some_iff, Recognized.mk.injEq, Rule.die.injEq] at h
    obtain ⟨family, hdie, rfl, rfl⟩ := h
    obtain ⟨digits, c, rest, hdigits, hfamily, hrest, rfl⟩ := bareDie?_eq_some_iff.mp hdie
    exact .die hdigits hfamily hrest

/-- A rule fits a body exactly if it makes something of it. -/
theorem fits_iff {b : Text} {r : Recognized} : Fits b r ↔ fit? b r.rule.rank = some r :=
  ⟨fit?_of_fits, fits_of_fit?⟩

/-- There are five rules. -/
theorem rank_lt (rule : Rule) : rule.rank < 5 := by
  cases rule <;> simp [Rule.rank]

/-- What a rule makes of a body names the rule. -/
theorem rank_of_fit? {b : Text} {rank : Nat} (hrank : rank < 5) {r : Recognized}
    (h : fit? b rank = some r) : r.rule.rank = rank := by
  match rank, h with
  | 0, h | 1, h | 2, h | 4, h =>
    simp only [fit?, Option.map_eq_some_iff] at h
    obtain ⟨_, -, rfl⟩ := h
    rfl
  | 3, h =>
    simp only [fit?, Option.ite_none_right_eq_some, Option.some.injEq] at h
    rw [← h.2]
    rfl

/-- A rule is the first that fits exactly if no rule before it makes anything of the body. -/
theorem fitsFirst_iff {b : Text} {r : Recognized} :
    FitsFirst b r ↔ fit? b r.rule.rank = some r ∧ ∀ rank < r.rule.rank, fit? b rank = none := by
  rw [FitsFirst, fits_iff]
  apply and_congr_right
  intro _
  constructor
  · intro hfirst rank hrank
    cases hfit : fit? b rank with
    | none => rfl
    | some r' =>
      have hlt := rank_lt r.rule
      have hsame := rank_of_fit? (by omega) hfit
      have hlater := hfirst r' (fits_iff.mpr (by rw [hsame]; exact hfit))
      omega
  · intro hnone r' hr'
    by_cases hlt : r'.rule.rank < r.rule.rank
    · have hfit := fits_iff.mp hr'
      rw [hnone _ hlt] at hfit
      cases hfit
    · omega

/-- A body is recognized by the first rule that fits it. -/
theorem ofBody?_eq_some_iff {b : Text} {r : Recognized} : ofBody? b = some r ↔ FitsFirst b r := by
  rw [fitsFirst_iff, ofBody?_eq, List.findSome?_eq_some_iff, List.range_eq_range']
  constructor
  · rintro ⟨before, rank, after, hsplit, hfit, hnone⟩
    obtain ⟨k, hk, rfl, hafter⟩ := List.range'_eq_append_iff.mp hsplit
    obtain ⟨hsame, hlength, -⟩ := List.range'_eq_cons_iff.mp hafter.symm
    rw [rank_of_fit? (by omega) hfit]
    exact ⟨hfit, fun rank' hrank' => hnone rank' (List.mem_range'_1.mpr (by omega))⟩
  · rintro ⟨hfit, hnone⟩
    have hlt := rank_lt r.rule
    have hbefore : ∀ rank ∈ List.range' 0 r.rule.rank, fit? b rank = none := by
      intro rank hrank
      rw [List.mem_range'_1] at hrank
      exact hnone rank (by omega)
    have hsplit : List.range' 0 5 = List.range' 0 r.rule.rank ++
        r.rule.rank :: List.range' (r.rule.rank + 1) (4 - r.rule.rank) := by
      rw [List.range'_eq_append_iff]
      refine ⟨r.rule.rank, by omega, rfl, ?_⟩
      rw [eq_comm, List.range'_eq_cons_iff]
      exact ⟨by omega, by omega, by congr 1; omega⟩
    exact ⟨_, _, _, hsplit, hfit, hbefore⟩

/-- A body is left alone if no rule fits it. -/
theorem ofBody?_eq_none_iff {b : Text} : ofBody? b = none ↔ ∀ r, ¬Fits b r := by
  constructor
  · intro h r hr
    rw [ofBody?_eq, List.findSome?_eq_none_iff] at h
    rw [fits_iff, h _ (List.mem_range.mpr (rank_lt r.rule))] at hr
    cases hr
  · intro h
    cases hbody : ofBody? b with
    | none => rfl
    | some r => exact absurd (ofBody?_eq_some_iff.mp hbody).1 (h r)

/-- A request is hidden if it was made by the marker of a hidden roll, or by the explicit command
with a flag. -/
theorem Fits.hidden_iff {b : Text} {r : Recognized} (h : Fits b r) :
    r.request.hidden = true ↔ r.rule = .hidden ∨ (r.rule = .command ∧ HasFlag b) := by
  cases h with
  | @command arguments words hidden harguments hwords hhidden =>
    simp only [reduceCtorEq, true_and, false_or, hhidden]
    constructor
    · exact fun hflag => ⟨arguments, words, rfl, hwords, hflag⟩
    · rintro ⟨arguments', words', hsame, hwords', hflag⟩
      obtain rfl := List.append_cancel_left hsame
      rw [← Text.words_of_hasWords hwords, Text.words_of_hasWords hwords']
      exact hflag
  | hidden hrest hpayload => simp
  | plain hrest hpayload => simp
  | repeated hne hdigits => simp
  | die hdigits hfamily hrest => simp

/-- A text has one body. It is recognized exactly if it was found to begin with a command prefix or
to be addressed to the bot and some rule fits its body; the first rule that fits decides what is
asked for. The result is hidden exactly if that rule is the marker of a hidden roll, or the explicit
command with a flag among its words. -/
theorem classify_follows_rules (commandPrefix : Option Text) (addressed : Bool) (text : Text) :
    ∃ b, (∀ b', BodyOf commandPrefix text b' ↔ b' = b) ∧
      (∀ r, classify commandPrefix addressed text = some r ↔
        (commandPrefix.isSome = true ∨ addressed = true) ∧ FitsFirst b r) ∧
      (classify commandPrefix addressed text = none ↔
        (commandPrefix = none ∧ addressed = false) ∨ ∀ r, ¬Fits b r) ∧
      ∀ r, Fits b r →
        (r.request.hidden = true ↔ r.rule = .hidden ∨ (r.rule = .command ∧ HasFlag b)) := by
  refine ⟨body commandPrefix text, fun b' => bodyOf_iff, ?_, ?_, fun r hr => hr.hidden_iff⟩
  · intro r
    rw [classify, Option.ite_none_left_eq_some, ofBody?_eq_some_iff]
    cases commandPrefix <;> cases addressed <;> simp
  · rw [classify]
    cases commandPrefix <;> cases addressed <;> simp [ofBody?_eq_none_iff]

end Recognition

end DiceBot
