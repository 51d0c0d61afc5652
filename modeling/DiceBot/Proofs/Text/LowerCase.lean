import DiceBot.Proofs.Text.Numeral
import DiceBot.Proofs.Text.Words
import DiceBot.Text.Case.Lower

/-!
# Lower case is stable

No character of a text in lower case has a small letter other than itself, so taking the lower case
twice is taking it once. For the tables this means that no small letter of one run is a capital
letter of any run.
-/

namespace DiceBot.Text

namespace CaseRun

/-- The small letter of a code point of a run. -/
def small (run : CaseRun) (n : Nat) : Nat := run.image + (n - run.first)

/-- Whether, as far as ends and steps tell, no small letter of one run is a capital letter of
another: the letters lie apart or, where capital and small letters alternate, differ in parity. -/
def isApart (run other : CaseRun) : Bool :=
  Nat.blt (run.small run.last) other.first || Nat.blt other.last run.image ||
    (other.step == 2 && (run.step == 2 || run.first == run.last) &&
      (run.image + other.first) % 2 == 1)

/-- Whether the small letters of a run are code points of characters, all beyond ASCII and none of
them the dotted capital I or the capital sigma, or the only one is the small k. -/
def isSettled (run : CaseRun) : Bool :=
  (run.first == run.last && run.image == 0x6B) ||
    ((Nat.blt (run.small run.last) 0xD800 || Nat.blt 0xDFFF run.image) &&
      Nat.blt (run.small run.last) 0x110000 &&
      Nat.ble 0x80 run.image &&
      (Nat.blt (run.small run.last) 0x130 || Nat.blt 0x130 run.image) &&
      (Nat.blt (run.small run.last) 0x3A3 || Nat.blt 0x3A3 run.image) &&
      caseRuns.all run.isApart)

/-- The characters of a run of cases lie between its ends, a whole number of steps from the first.
-/
theorem covers_iff {run : CaseRun} {n : Nat} :
    run.covers n = true ↔ run.first ≤ n ∧ n ≤ run.last ∧ (n - run.first) % run.step = 0 := by
  simp only [covers, Bool.and_eq_true, Nat.ble_eq, beq_iff_eq, and_assoc]

/-- The small letters of a run are not capital letters of a run that lies apart. -/
theorem not_covers_of_isApart {run other : CaseRun} {n : Nat} (hapart : run.isApart other = true)
    (hn : run.covers n = true) : other.covers (run.small n) = false := by
  obtain ⟨hfirst, hlast, hstep⟩ := covers_iff.mp hn
  rw [Bool.eq_false_iff]
  intro hother
  obtain ⟨hfirst', hlast', hstep'⟩ := covers_iff.mp hother
  simp only [isApart, small, Bool.or_eq_true, Bool.and_eq_true, Nat.blt_eq, beq_iff_eq,
    or_assoc] at hapart
  simp only [small] at hfirst' hlast' hstep'
  rcases hapart with hbelow | habove | ⟨⟨htwo, hone | hone⟩, hodd⟩
  · omega
  · omega
  · rw [hone] at hstep
    rw [htwo] at hstep'
    omega
  · rw [htwo] at hstep'
    omega

/-- The table of runs is settled. -/
theorem caseRuns_isSettled : caseRuns.all isSettled = true := by decide +kernel

/-- Whether no small letter of a run is blank. -/
def isInked (run : CaseRun) : Bool :=
  blankCodePoints.all fun range => Nat.blt (run.small run.last) range.1 || Nat.blt range.2 run.image

/-- No run of the table has a blank among its small letters. -/
theorem caseRuns_isInked : caseRuns.all isInked = true := by decide +kernel

end CaseRun

/-- Whether a character is one that taking the lower case leaves as it is. -/
def IsSmall (c : Char) : Prop := c ≠ 'Σ' ∧ c ≠ 'İ' ∧ lowerChar c = c

/-- A capital letter that has a fixed small letter goes to that. -/
theorem lowerAt_of_fixed {c : Char} (hsigma : c ≠ 'Σ') (hdotted : c ≠ 'İ') (before after : Text) :
    lowerAt before c after = [lowerChar c] := by
  rw [lowerAt, if_neg hsigma, if_neg hdotted]

/-- The lower case of a character is never empty. -/
theorem lowerAt_ne_nil (before : Text) (c : Char) (after : Text) : lowerAt before c after ≠ [] := by
  unfold lowerAt
  split
  · exact List.cons_ne_nil _ _
  · split <;> exact List.cons_ne_nil _ _

/-- The characters that the capital sigma and the dotted capital I go to. -/
def specialSmall : List Char := ['ς', 'σ', 'i', '\u0307']

/-- What a character goes to is one of the special ones, or its fixed small letter. -/
theorem mem_lowerAt {before after : Text} {c d : Char} (hd : d ∈ lowerAt before c after) :
    d ∈ specialSmall ∨ (c ≠ 'Σ' ∧ c ≠ 'İ' ∧ d = lowerChar c) := by
  by_cases hsigma : c = 'Σ'
  · rw [lowerAt, if_pos hsigma, List.mem_singleton] at hd
    rw [hd]
    left
    cases meetsCased before && !meetsCased after <;> decide
  by_cases hdotted : c = 'İ'
  · rw [lowerAt, if_neg hsigma, if_pos hdotted] at hd
    exact Or.inl (List.mem_cons_of_mem _ (List.mem_cons_of_mem _ hd))
  · rw [lowerAt_of_fixed hsigma hdotted, List.mem_singleton] at hd
    exact Or.inr ⟨hsigma, hdotted, hd⟩

/-- The characters that the capital sigma and the dotted capital I go to, one by one. -/
theorem mem_specialSmall_iff {d : Char} :
    d ∈ specialSmall ↔ d = 'ς' ∨ d = 'σ' ∨ d = 'i' ∨ d = '\u0307' := by
  simp only [specialSmall, List.mem_cons, List.not_mem_nil, or_false]

/-- A small letter is its own lower case, wherever it stands. -/
theorem lowerAt_of_isSmall {c : Char} (hc : IsSmall c) (before after : Text) :
    lowerAt before c after = [c] := by
  rw [lowerAt_of_fixed hc.1 hc.2.1, hc.2.2]

/-- A text of small characters is its own lower case. -/
theorem lower_of_isSmall {t : Text} (ht : ∀ c ∈ t, IsSmall c) : lower t = t := by
  suffices h : ∀ before, lowerFrom before t = t from h []
  induction t with
  | nil => exact fun before => rfl
  | cons c t ih =>
    intro before
    rw [lowerFrom, lowerAt_of_isSmall (ht c List.mem_cons_self),
      ih (fun d hd => ht d (List.mem_cons_of_mem c hd)), List.singleton_append]

/-- The small letters of ASCII are small. -/
private theorem isSmall_toLower {c : Char} (hc : c.toNat < 0x80) : IsSmall c.toLower := by
  obtain ⟨hlt, htwice⟩ := of_toNat_lt (P := fun c => Nat.blt c.toLower.toNat 0x80 = true ∧
    c.toLower.toLower = c.toLower) (by decide) hc
  rw [Nat.blt_eq] at hlt
  refine ⟨?_, ?_, ?_⟩
  · intro h
    rw [h] at hlt
    exact absurd hlt (by decide)
  · intro h
    rw [h] at hlt
    exact absurd hlt (by decide)
  · have hble : Nat.ble 0x80 c.toLower.toNat = false := by
      rw [Bool.eq_false_iff, ne_eq, Nat.ble_eq]
      omega
    simp only [lowerChar, hble, Bool.false_eq_true, if_false, htwice]

/-- The digits of ASCII are small. -/
theorem isSmall_of_isDigit {c : Char} (hc : c.isDigit = true) : IsSmall c := by
  obtain ⟨hlow, hhigh⟩ := isDigit_iff.mp hc
  exact of_toNat_lt (P := fun c => 0x30 ≤ c.toNat → c ≠ 'Σ' ∧ c ≠ 'İ' ∧ lowerChar c = c)
    (b := 0x3A) (by decide) (by omega) hlow

/-- Blanks are small. -/
theorem isSmall_of_isBlankChar {c : Char} (hc : isBlankChar c = true) : IsSmall c := by
  have hall : ∀ range ∈ blankCodePoints, ∀ n ∈ List.range' range.1 (range.2 + 1 - range.1),
      Char.ofNat n ≠ 'Σ' ∧ Char.ofNat n ≠ 'İ' ∧ lowerChar (Char.ofNat n) = Char.ofNat n := by
    decide +kernel
  obtain ⟨range, hrange, hlow, hhigh⟩ := (CodePoints.has_iff _ c).mp hc
  have hblank := hall range hrange c.toNat (by rw [List.mem_range'_1]; omega)
  rw [Char.ofNat_toNat] at hblank
  exact hblank

/-- The small letters of a settled run are characters, beyond ASCII but for the small k. -/
theorem toNat_ofNat_small {run : CaseRun} {n : Nat} (hsettled : run.isSettled = true)
    (hn : run.covers n = true) :
    (Char.ofNat (run.small n)).toNat = run.small n ∧
      (run.small n = 0x6B ∨ 0x80 ≤ run.small n) := by
  obtain ⟨hfirst, hlast, hstep⟩ := CaseRun.covers_iff.mp hn
  simp only [CaseRun.isSettled, CaseRun.small, Bool.or_eq_true, Bool.and_eq_true, Nat.blt_eq,
    Nat.ble_eq, beq_iff_eq] at hsettled
  have hcode : (run.small n).isValidChar ∧ (run.small n = 0x6B ∨ 0x80 ≤ run.small n) := by
    simp only [Nat.isValidChar, CaseRun.small]
    omega
  refine ⟨?_, hcode.2⟩
  rw [Char.ofNat, dif_pos hcode.1]
  rfl

/-- The small letters of a settled run are small. -/
private theorem isSmall_small {run : CaseRun} {n : Nat} (hsettled : run.isSettled = true)
    (hn : run.covers n = true) : IsSmall (Char.ofNat (run.small n)) := by
  obtain ⟨hfirst, hlast, hstep⟩ := CaseRun.covers_iff.mp hn
  obtain ⟨hchar, hrange⟩ := toNat_ofNat_small hsettled hn
  simp only [CaseRun.isSettled, CaseRun.small, Bool.or_eq_true, Bool.and_eq_true, Nat.blt_eq,
    Nat.ble_eq, beq_iff_eq, List.all_eq_true] at hsettled
  rcases hsettled with ⟨hone, hk⟩ | ⟨⟨⟨⟨⟨hvalid, hmax⟩, hlow⟩, hdotted⟩, hsigma⟩, hapart⟩
  · have hsmall : run.small n = 0x6B := by
      simp only [CaseRun.small]
      omega
    rw [hsmall]
    exact ⟨by decide, by decide, by decide⟩
  · have hbounds : run.image ≤ run.small n ∧
        run.small n ≤ run.image + (run.last - run.first) := by
      simp only [CaseRun.small]
      omega
    have hnone : caseRuns.find? (·.covers (run.small n)) = none := by
      rw [List.find?_eq_none]
      intro other hother
      rw [CaseRun.not_covers_of_isApart (hapart other hother) hn]
      exact Bool.false_ne_true
    refine ⟨?_, ?_, ?_⟩
    · intro h
      rw [h] at hchar
      have : 'Σ'.toNat = 0x3A3 := rfl
      omega
    · intro h
      rw [h] at hchar
      have : 'İ'.toNat = 0x130 := rfl
      omega
    · have hble : Nat.ble 0x80 (run.small n) = true := by
        rw [Nat.ble_eq]
        omega
      simp only [lowerChar, hchar, hble, if_true, hnone]

/-- A capital letter beyond ASCII goes to the small letter of its run. -/
theorem lowerChar_cases {c : Char} (hc : 0x80 ≤ c.toNat) :
    lowerChar c = c ∨ ∃ run ∈ caseRuns, run.covers c.toNat = true ∧
      lowerChar c = Char.ofNat (run.small c.toNat) := by
  have hble : Nat.ble 0x80 c.toNat = true := by
    rw [Nat.ble_eq]
    exact hc
  cases hfind : caseRuns.find? (·.covers c.toNat) with
  | none => exact Or.inl (by simp only [lowerChar, hble, if_true, hfind])
  | some run =>
    refine Or.inr ⟨run, List.mem_of_find?_eq_some hfind, ?_, ?_⟩
    · exact List.find?_some (p := fun r : CaseRun => r.covers c.toNat) hfind
    · simp only [lowerChar, hble, if_true, hfind, CaseRun.small]

/-- Among the characters of ASCII lower case is what it is there. -/
theorem lowerChar_of_ascii {c : Char} (hc : c.toNat < 0x80) : lowerChar c = c.toLower := by
  have hble : Nat.ble 0x80 c.toNat = false := by
    rw [Bool.eq_false_iff, ne_eq, Nat.ble_eq]
    omega
  simp only [lowerChar, hble, Bool.false_eq_true, if_false]

/-- Beyond ASCII a character stays, goes to the small k, or to a character beyond ASCII that is not
blank. -/
theorem lowerChar_of_not_ascii {c : Char} (hc : 0x80 ≤ c.toNat) :
    lowerChar c = c ∨ lowerChar c = 'k' ∨
      (0x80 ≤ (lowerChar c).toNat ∧ isBlankChar (lowerChar c) = false) := by
  rcases lowerChar_cases hc with hsame | ⟨run, hrun, hcovers, hsmall⟩
  · exact Or.inl hsame
  · obtain ⟨hchar, hk | hlow⟩ :=
      toNat_ofNat_small (List.all_eq_true.mp CaseRun.caseRuns_isSettled run hrun) hcovers
    · rw [hsmall, hk]
      exact Or.inr (Or.inl rfl)
    · rw [hsmall]
      refine Or.inr (Or.inr ⟨by rw [hchar]; exact hlow, ?_⟩)
      rw [Bool.eq_false_iff]
      intro hblank
      obtain ⟨range, hrange, hfrom, hto⟩ := (CodePoints.has_iff _ _).mp hblank
      have hinked := List.all_eq_true.mp CaseRun.caseRuns_isInked run hrun
      have hapart := List.all_eq_true.mp hinked range hrange
      obtain ⟨hfirst, hlast, -⟩ := CaseRun.covers_iff.mp hcovers
      rw [Bool.or_eq_true, Nat.blt_eq, Nat.blt_eq] at hapart
      rw [hchar] at hfrom hto
      simp only [CaseRun.small] at hfrom hto hapart
      omega

/-- In lower case a character stays, or becomes small letters of ASCII and characters beyond ASCII
that are not blank. -/
theorem mem_lowerAt_cases {before after : Text} {c d : Char} (hd : d ∈ lowerAt before c after) :
    d = c ∨ (0x61 ≤ d.toNat ∧ d.toNat ≤ 0x7A) ∨ (0x80 ≤ d.toNat ∧ isBlankChar d = false) := by
  rcases mem_lowerAt hd with hspecial | ⟨-, -, rfl⟩
  · right
    rcases mem_specialSmall_iff.mp hspecial with rfl | rfl | rfl | rfl <;> decide
  · by_cases hc : c.toNat < 0x80
    · have hletter := of_toNat_lt (P := fun c => c.toLower = c ∨
        (0x61 ≤ c.toLower.toNat ∧ c.toLower.toNat ≤ 0x7A)) (by decide) hc
      rw [lowerChar_of_ascii hc]
      rcases hletter with hsame | hlower
      · exact Or.inl hsame
      · exact Or.inr (Or.inl hlower)
    · rcases lowerChar_of_not_ascii (Nat.le_of_not_lt hc) with hsame | hk | hhigh
      · exact Or.inl hsame
      · rw [hk]
        exact Or.inr (Or.inl (by decide))
      · exact Or.inr (Or.inr hhigh)

/-- What a character that has a fixed small letter goes to is small. -/
theorem isSmall_lowerChar {c : Char} (hsigma : c ≠ 'Σ') (hdotted : c ≠ 'İ') :
    IsSmall (lowerChar c) := by
  by_cases hc : c.toNat < 0x80
  · rw [lowerChar_of_ascii hc]
    exact isSmall_toLower hc
  · rcases lowerChar_cases (Nat.le_of_not_lt hc) with hsame | ⟨run, hrun, hcovers, hsmall⟩
    · rw [hsame]
      exact ⟨hsigma, hdotted, hsame⟩
    · rw [hsmall]
      exact isSmall_small (List.all_eq_true.mp CaseRun.caseRuns_isSettled run hrun) hcovers

/-- The lower case of a character is made of small letters. -/
theorem isSmall_of_mem_lowerAt {before after : Text} {c d : Char}
    (hd : d ∈ lowerAt before c after) : IsSmall d := by
  rcases mem_lowerAt hd with hspecial | ⟨hsigma, hdotted, rfl⟩
  · rcases mem_specialSmall_iff.mp hspecial with rfl | rfl | rfl | rfl <;>
      exact ⟨by decide, by decide, by decide +kernel⟩
  · exact isSmall_lowerChar hsigma hdotted

/-- Every character of a text in lower case comes from one of the text. -/
theorem exists_of_mem_lower {t : Text} {d : Char} (hd : d ∈ lower t) :
    ∃ before c after, c ∈ t ∧ d ∈ lowerAt before c after := by
  suffices h : ∀ before, d ∈ lowerFrom before t → ∃ before c after, c ∈ t ∧
      d ∈ lowerAt before c after from h [] hd
  clear hd
  induction t with
  | nil => exact fun before hd => absurd hd List.not_mem_nil
  | cons c t ih =>
    intro before hd
    rcases List.mem_append.mp hd with hd | hd
    · exact ⟨before, c, t, List.mem_cons_self, hd⟩
    · obtain ⟨before', c', after, hc', hd'⟩ := ih (c :: before) hd
      exact ⟨before', c', after, List.mem_cons_of_mem c hc', hd'⟩

/-- So is that of a text. -/
theorem isSmall_of_mem_lower {t : Text} {c : Char} (hc : c ∈ lower t) : IsSmall c := by
  obtain ⟨before, d, after, -, hc⟩ := exists_of_mem_lower hc
  exact isSmall_of_mem_lowerAt hc

/-- Of ASCII only small letters are new in lower case. -/
theorem mem_of_mem_lower {t : Text} {c : Char} (hc : c ∈ lower t) (hascii : c.toNat < 0x80)
    (hletter : ¬(0x61 ≤ c.toNat ∧ c.toNat ≤ 0x7A)) : c ∈ t := by
  obtain ⟨before, d, after, hd, hc⟩ := exists_of_mem_lower hc
  rcases mem_lowerAt_cases hc with rfl | hlower | ⟨hhigh, -⟩
  · exact hd
  · exact absurd hlower hletter
  · omega

/-- A blank stays as it is in lower case, and nothing else becomes blank. -/
theorem isBlank_lowerAt (before : Text) (c : Char) (after : Text) :
    isBlank (lowerAt before c after) = isBlankChar c := by
  cases hc : isBlankChar c with
  | true =>
    rw [lowerAt_of_isSmall (isSmall_of_isBlankChar hc)]
    simp [isBlank, hc]
  | false =>
    obtain ⟨d, hd⟩ := List.exists_mem_of_ne_nil _ (lowerAt_ne_nil before c after)
    have hblank : isBlankChar d = false := by
      rcases mem_lowerAt_cases hd with rfl | ⟨hlow, hhigh⟩ | ⟨-, hblank⟩
      · exact hc
      · exact isBlankChar_of_between (by omega) hhigh
      · exact hblank
    rw [isBlank, List.all_eq_false]
    exact ⟨d, hd, by rw [hblank]; exact Bool.false_ne_true⟩

/-- A text is blank exactly if its lower case is. -/
@[simp] theorem isBlank_lower (t : Text) : isBlank (lower t) = isBlank t := by
  suffices h : ∀ before, isBlank (lowerFrom before t) = isBlank t from h []
  induction t with
  | nil => exact fun before => rfl
  | cons c t ih =>
    intro before
    have hlower := isBlank_lowerAt before c t
    have hrest := ih (c :: before)
    rw [isBlank] at hlower hrest
    rw [lowerFrom, isBlank, List.all_append, hlower, hrest]
    rfl

end DiceBot.Text
