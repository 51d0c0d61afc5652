import DiceBot.Proofs.Chat.Rules
import DiceBot.Proofs.Roll.Splitting
import DiceBot.Proofs.Text.Classes
import DiceBot.Proofs.Text.Unescaping

/-!
# Repeat markers

A message that begins with digits and a separator is recognized by them, and the digits are read
again when its payload is split. The first reader takes decimal digits of any script, the second
those of ASCII only. So they agree on the repeat count of a message unless one of its digits belongs
to another script: such a count is refused even if it is within the limits.
-/

namespace DiceBot

namespace RollLimits

variable {limits : RollLimits} {digits : Text} {n m : Nat}

theorem isCount_numeral_iff (h : Text.IsNumeral 10 digits n) :
    limits.IsCount digits m ↔ m = n ∧ 1 ≤ n ∧ n ≤ limits.maxRollTimes.toNat := by
  have hdenotes : Decimal.Denotes digits n := by
    simpa using Decimal.Denotes.intro .absent (.whole h) .absent
  rw [isCount_iff hdenotes]
  constructor
  · rintro ⟨hnearest, hlow, hhigh⟩
    obtain rfl := (Binary64.isNearest_natural_natural_iff (Nat.one_le_iff_ne_zero.mp hlow)
      (lt_of_le_maxRollTimes hhigh)).mp hnearest
    exact ⟨rfl, hlow, hhigh⟩
  · rintro ⟨rfl, hlow, hhigh⟩
    exact ⟨Binary64.isNearest_natural (Nat.one_le_iff_ne_zero.mp hlow)
      (lt_of_le_maxRollTimes hhigh), hlow, hhigh⟩

/-- Digits of which one is of another script than ASCII are no repeat count. -/
theorem IsCount.isDigit (h : limits.IsCount digits n)
    (hdigits : ∀ c ∈ digits, Text.isDecimalDigit c = true) : ∀ c ∈ digits, c.isDigit = true := by
  obtain ⟨u, count, hu, hread, hvalue, -, -⟩ := h
  have hblank : ∀ c ∈ digits, Text.isBlankChar c = false :=
    fun c hc => Text.isBlankChar_of_isDecimalDigit (hdigits c hc)
  have htrimmed : Text.IsTrimmed digits :=
    ⟨fun c hc => hblank c (List.mem_of_mem_head? hc),
      fun c hc => hblank c (List.mem_of_getLast? hc)⟩
  rw [Text.trimsTo_iff.mp hu, htrimmed.trim_eq, Binary64.ofText?] at hread
  split at hread
  · next d hd =>
    have hmarks : ['+', '-', '.', 'e', 'E'].all (!Text.isDecimalDigit ·) = true := by decide
    intro c hc
    rcases (Decimal.exists_read?_iff.mp ⟨d, hd, rfl⟩).isNumeralChar c hc with hdigit | hmark
    · exact hdigit
    · have hmark := List.all_eq_true.mp hmarks c hmark
      rw [hdigits c hc] at hmark
      cases hmark
  · -- The words that are read stand for no number.
    simp only [Binary64.ofWord?] at hread
    split at hread
    · obtain rfl := Option.some.inj hread
      cases hvalue
    · split at hread
      · obtain rfl := Option.some.inj hread
        cases hvalue
      · cases hread

end RollLimits

namespace RollPlan

/-- Whether what a payload is split into takes a number for the repeat count, unless it is
malformed: there is a plan with that many rolls if they are within the limits, and otherwise the
limit is reported. -/
inductive TakesCount (limits : RollLimits) (n : Nat) : Except RollError RollPlan → Prop
  | malformed (issue : FormatIssue) : TakesCount limits n (.error (.format issue))
  | repeated {plan : RollPlan} (hcount : plan.repeatCount = n) (hlow : 1 ≤ n)
      (hhigh : n ≤ limits.maxRollTimes.toNat) : TakesCount limits n (.ok plan)
  | refused (hrange : ¬(1 ≤ n ∧ n ≤ limits.maxRollTimes.toNat)) :
      TakesCount limits n (.error (.limit limits.maxRollTimes))

variable {limits : RollLimits} {digits rest : Text}

theorem not_mem_of_isDecimalDigit {c : Char} (hc : Text.isDecimalDigit c = false)
    (hdigits : ∀ d ∈ digits, Text.isDecimalDigit d = true) : c ∉ digits :=
  fun hmem => Bool.false_ne_true (hc.symm.trans (hdigits c hmem))

/-- The first word of a payload that begins with digits and a separator begins with them too, also
once it is unescaped. -/
theorem exists_hasWords_marker (hdigits : ∀ c ∈ digits, Text.isDecimalDigit c = true)
    (rest : Text) :
    ∃ ws right, Text.HasWords (digits ++ '#' :: rest) ws ∧
      (ws.head?.map Text.unescape).getD ['d'] = digits ++ '#' :: right := by
  obtain ⟨word, after, hrest, hword, hafter⟩ :=
    Text.exists_word (show Text.isBlankChar '#' = false by decide) rest
  have hblank : ∀ c ∈ digits ++ '#' :: word, Text.isBlankChar c = false := by
    intro c hc
    rcases List.mem_append.mp hc with hc | hc
    · exact Text.isBlankChar_of_isDecimalDigit (hdigits c hc)
    · exact hword c hc
  have hwords := Text.words_append (by simp) hblank hafter
  have hampersand : '&' ∉ digits := not_mem_of_isDecimalDigit (by decide) hdigits
  refine ⟨(digits ++ '#' :: word) :: Text.words after, Text.unescape word, ?_, ?_⟩
  · rw [← Text.words_eq_iff, hrest, ← List.append_assoc, hwords]
  · rw [List.head?_cons, Option.map_some, Option.getD_some, Text.unescape_append hampersand,
      Text.unescape_cons (by decide)]

/-- What a payload that begins with digits and a separator is split into. -/
theorem ofPayload_marker (limits : RollLimits) (hne : digits ≠ [])
    (hdigits : ∀ c ∈ digits, Text.isDecimalDigit c = true) (rest : Text) :
    (∃ issue, ofPayload limits (digits ++ '#' :: rest) = .error (.format issue)) ∨
      (∃ plan, ofPayload limits (digits ++ '#' :: rest) = .ok plan ∧
        (∀ c ∈ digits, c.isDigit = true) ∧ plan.repeatCount = Text.decimalValue digits ∧
        1 ≤ plan.repeatCount ∧ plan.repeatCount ≤ limits.maxRollTimes.toNat) ∨
      (ofPayload limits (digits ++ '#' :: rest) = .error (.limit limits.maxRollTimes) ∧
        ¬((∀ c ∈ digits, c.isDigit = true) ∧ 1 ≤ Text.decimalValue digits ∧
          Text.decimalValue digits ≤ limits.maxRollTimes.toNat)) := by
  have hseparator : '#' ∉ digits := not_mem_of_isDecimalDigit (by decide) hdigits
  obtain ⟨ws, right, hws, hfirst⟩ := exists_hasWords_marker hdigits rest
  have hsplitting := @splitting limits _ _ hws
  rw [hfirst] at hsplitting
  have hleft : ∀ {left right'}, SplitsInto (digits ++ '#' :: right) left right' → left = digits :=
    fun ht => (ht.parts.1.symm.trans (Text.takeWhile_dropWhile_bne hseparator right).1)
  generalize ofPayload limits (digits ++ '#' :: rest) = result at hsplitting
  cases hsplitting with
  | tooManyTokens hlength => exact Or.inl ⟨_, rfl⟩
  | tooManySeparators hlength ht => exact Or.inl ⟨_, rfl⟩
  | once hlength ht hnames => exact absurd (by simp) ht
  | limit hlength ht hcount =>
    obtain rfl := hleft ht
    refine Or.inr (Or.inr ⟨rfl, ?_⟩)
    rintro ⟨hascii, hlow, hhigh⟩
    have hnumeral := Text.isNumeral_decimalValue hne hascii
    exact hcount _ ((RollLimits.isCount_numeral_iff hnumeral).mpr ⟨rfl, hlow, hhigh⟩)
  | repeated hlength ht hcount hnames =>
    obtain rfl := hleft ht
    have hascii := hcount.isDigit hdigits
    have hnumeral := Text.isNumeral_decimalValue hne hascii
    obtain ⟨hsame, hlow, hhigh⟩ := (RollLimits.isCount_numeral_iff hnumeral).mp hcount
    exact Or.inr (Or.inl ⟨_, rfl, hascii, hsame, hsame.symm ▸ hlow, hsame.symm ▸ hhigh⟩)

/-- The number that the digits denote is taken for the repeat count, unless it is within the limits
but one of the digits is not of ASCII. -/
theorem takesCount_iff (limits : RollLimits) (hne : digits ≠ [])
    (hdigits : ∀ c ∈ digits, Text.isDecimalDigit c = true) (rest : Text) :
    TakesCount limits (Text.decimalValue digits) (ofPayload limits (digits ++ '#' :: rest)) ↔
      (∃ issue, ofPayload limits (digits ++ '#' :: rest) = .error (.format issue)) ∨
      (∀ c ∈ digits, c.isDigit = true) ∨
      ¬(1 ≤ Text.decimalValue digits ∧
        Text.decimalValue digits ≤ limits.maxRollTimes.toNat) := by
  rcases ofPayload_marker limits hne hdigits rest with
    ⟨issue, hresult⟩ | ⟨plan, hresult, hascii, hcount, hlow, hhigh⟩ | ⟨hresult, hnot⟩
  · rw [hresult]
    exact iff_of_true (.malformed issue) (Or.inl ⟨issue, rfl⟩)
  · rw [hresult]
    exact iff_of_true (.repeated hcount (hcount ▸ hlow) (hcount ▸ hhigh)) (Or.inr (Or.inl hascii))
  · rw [hresult]
    constructor
    · intro h
      cases h with
      | refused hrange => exact Or.inr (Or.inr hrange)
    · rintro (⟨issue, hissue⟩ | hascii | hrange)
      · cases hissue
      · exact .refused fun hrange => hnot ⟨hascii, hrange⟩
      · exact .refused hrange

theorem ofPayload_of_not_takesCount (hne : digits ≠ [])
    (hdigits : ∀ c ∈ digits, Text.isDecimalDigit c = true)
    (h : ¬TakesCount limits (Text.decimalValue digits)
      (ofPayload limits (digits ++ '#' :: rest))) :
    ofPayload limits (digits ++ '#' :: rest) = .error (.limit limits.maxRollTimes) := by
  rcases ofPayload_marker limits hne hdigits rest with
    ⟨issue, hresult⟩ | ⟨plan, hresult, hascii, hcount, hlow, hhigh⟩ | ⟨hresult, -⟩
  · rw [hresult] at h
    exact absurd (.malformed issue) h
  · rw [hresult] at h
    exact absurd (.repeated hcount (hcount ▸ hlow) (hcount ▸ hhigh)) h
  · exact hresult

end RollPlan

namespace Recognition

/-- The digits that a message is recognized by as a repeat marker. -/
theorem exists_marker_of_classify {commandPrefix : Option Text} {addressed : Bool} {text : Text}
    {r : Recognized} (h : classify commandPrefix addressed text = some r)
    (hrule : r.rule = .repeated) :
    ∃ digits rest, digits ≠ [] ∧ (∀ c ∈ digits, Text.isDecimalDigit c = true) ∧
      body commandPrefix text = digits ++ '#' :: rest ∧
      r.request = ⟨digits ++ '#' :: rest, false⟩ := by
  rw [classify, Option.ite_none_left_eq_some, ofBody?_eq_some_iff] at h
  obtain ⟨-, hfits, -⟩ := h
  generalize body commandPrefix text = b at hfits
  cases hfits with
  | @repeated digits rest hne hdigits => exact ⟨digits, rest, hne, hdigits, rfl, rfl⟩
  | command harguments hwords hhidden => cases hrule
  | hidden hrest hpayload => cases hrule
  | plain hrest hpayload => cases hrule
  | die hdigits hfamily hrest => cases hrule

/-- A message that is recognized as a repeat marker begins, without what is before its body, with
decimal digits and a separator, and its whole body is the payload. Splitting it takes the number
that the digits denote for the repeat count exactly if the payload is malformed, all the digits are
of ASCII, or the number is outside the limits. Otherwise it is refused for the limit. -/
theorem repeatMarker_takesCount_iff {commandPrefix : Option Text} {addressed : Bool} {text : Text}
    {r : Recognized} (h : classify commandPrefix addressed text = some r)
    (hrule : r.rule = .repeated) (limits : RollLimits) :
    ∃ digits rest, digits ≠ [] ∧ (∀ c ∈ digits, Text.isDecimalDigit c = true) ∧
      body commandPrefix text = digits ++ '#' :: rest ∧
      r.request = ⟨digits ++ '#' :: rest, false⟩ ∧
      let n := Text.decimalValue digits
      let result := RollPlan.ofPayload limits r.request.payload
      (RollPlan.TakesCount limits n result ↔
        (∃ issue, result = .error (.format issue)) ∨ (∀ c ∈ digits, c.isDigit = true) ∨
          ¬(1 ≤ n ∧ n ≤ limits.maxRollTimes.toNat)) ∧
      (¬RollPlan.TakesCount limits n result → result = .error (.limit limits.maxRollTimes)) := by
  obtain ⟨digits, rest, hne, hdigits, hbody, hrequest⟩ := exists_marker_of_classify h hrule
  refine ⟨digits, rest, hne, hdigits, hbody, hrequest, ?_⟩
  rw [hrequest]
  exact ⟨RollPlan.takesCount_iff limits hne hdigits rest,
    RollPlan.ofPayload_of_not_takesCount hne hdigits⟩

/-- A repeat count of three in a wide digit is refused where ten rolls are allowed. -/
theorem repeatMarker_wide_three :
    let text := "３#d6".toList
    classify none true text = some ⟨.repeated, ⟨text, false⟩⟩ ∧ Text.decimalValue ['３'] = 3 ∧
      RollPlan.ofPayload .standard text = .error (.limit 10) ∧
      ¬RollPlan.TakesCount .standard 3 (RollPlan.ofPayload .standard text) := by
  intro text
  have hresult : RollPlan.ofPayload .standard text = .error (.limit 10) := by decide +kernel
  refine ⟨by decide +kernel, by decide +kernel, hresult, ?_⟩
  rw [hresult]
  intro htakes
  cases htakes with
  | refused hrange => exact hrange (by decide)

/-- A repeat count of three with leading zeros is taken. -/
theorem repeatMarker_takesCount_leading_zeros :
    let text := " 003#d6 fire".toList
    ∃ r, classify none true text = some r ∧ r.rule = .repeated ∧
      RollPlan.TakesCount .standard 3 (RollPlan.ofPayload .standard r.request.payload) := by
  intro text
  have hclassify : classify none true text =
      some ⟨.repeated, ⟨"003#d6 fire".toList, false⟩⟩ := by decide +kernel
  refine ⟨_, hclassify, rfl, ?_⟩
  obtain ⟨digits, rest, -, hdigits, -, hrequest, htakes, -⟩ :=
    repeatMarker_takesCount_iff hclassify rfl .standard
  have hseparator : '#' ∉ digits := RollPlan.not_mem_of_isDecimalDigit (by decide) hdigits
  have hpayload : "003#d6 fire".toList = digits ++ '#' :: rest :=
    congrArg RollRequest.payload hrequest
  obtain ⟨hsame, -⟩ := Text.takeWhile_dropWhile_bne hseparator rest
  rw [← hpayload] at hsame
  have hdigits : digits = "003".toList := hsame.symm.trans (by decide)
  have hthree : Text.decimalValue digits = 3 := by
    rw [hdigits]
    decide +kernel
  have hascii : digits.all Char.isDigit = true := by
    rw [hdigits]
    decide
  rw [hthree] at htakes
  exact htakes.mpr (Or.inr (Or.inl (List.all_eq_true.mp hascii)))

end Recognition

end DiceBot
