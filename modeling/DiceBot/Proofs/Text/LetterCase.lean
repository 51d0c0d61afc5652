import DiceBot.Proofs.Text.Words
import DiceBot.Text.Case.Lower

/-!
# Letter case

What becomes of a text when its ASCII capitals are made small. A small letter is of the same classes
as its capital, so cutting a text and making it small may be done in either order; and lower case in
the sense of Unicode is the same with or without this step.
-/

namespace DiceBot.Text

/-- The capital letters of ASCII. -/
def capitals : List Char := "ABCDEFGHIJKLMNOPQRSTUVWXYZ".toList

/-- A text with small letters in place of the ASCII capitals. -/
def foldCase (t : Text) : Text := t.map Char.toLower

/-- Whether a character is neither an ASCII capital nor the small letter of one. -/
def hasNoCase (d : Char) : Bool := capitals.all fun c => c != d && c.toLower != d

/-- Whether two texts are the same up to the case of ASCII letters. -/
def SameLetters (t u : Text) : Prop := foldCase t = foldCase u

/-- Only ASCII capitals have another small letter. -/
theorem toLower_eq_or_mem_capitals (c : Char) : c.toLower = c ∨ c ∈ capitals := by
  by_cases hc : c.val ≥ 'A'.val ∧ c.val ≤ 'Z'.val
  · have hlow : 0x41 ≤ c.toNat := UInt32.le_iff_toNat_le.mp hc.1
    have hhigh : c.toNat ≤ 0x5A := UInt32.le_iff_toNat_le.mp hc.2
    exact Or.inr (of_toNat_lt (P := fun c => 0x41 ≤ c.toNat → c ∈ capitals) (b := 0x5B)
      (by decide) (by omega) hlow)
  · exact Or.inl (dif_neg hc)

/-- What does not tell the ASCII capitals from their small letters is blind to their case. -/
theorem apply_toLower {α : Type} [DecidableEq α] {f : Char → α}
    (hf : capitals.all (fun c => decide (f c.toLower = f c)) = true) (c : Char) :
    f c.toLower = f c := by
  rcases toLower_eq_or_mem_capitals c with hsame | hcapital
  · rw [hsame]
  · exact of_decide_eq_true (List.all_eq_true.mp hf c hcapital)

theorem toLower_toLower (c : Char) : c.toLower.toLower = c.toLower :=
  apply_toLower (f := Char.toLower) (by decide) c

/-- The case of a letter does not decide whether it is blank. -/
theorem isBlankChar_toLower (c : Char) : isBlankChar c.toLower = isBlankChar c :=
  apply_toLower (by decide) c

theorem isDigit_toLower (c : Char) : c.toLower.isDigit = c.isDigit :=
  apply_toLower (f := Char.isDigit) (by decide) c

/-- Nor does it decide what is a digit, in whatever script. -/
theorem isDecimalDigit_toLower (c : Char) : isDecimalDigit c.toLower = isDecimalDigit c :=
  apply_toLower (by decide) c

/-- A small letter is a letter with a case exactly if the capital one is. -/
theorem isCased_toLower (c : Char) : isCased c.toLower = isCased c :=
  apply_toLower (by decide +kernel) c

/-- A small letter is looked past exactly if the capital one is. -/
theorem isCaseIgnorable_toLower (c : Char) : isCaseIgnorable c.toLower = isCaseIgnorable c :=
  apply_toLower (by decide +kernel) c

/-- A character without a case is the small letter of itself only. -/
theorem toLower_eq_iff {d : Char} (hd : hasNoCase d = true) (c : Char) : c.toLower = d ↔ c = d := by
  rcases toLower_eq_or_mem_capitals c with hsame | hcapital
  · rw [hsame]
  · have hboth := List.all_eq_true.mp hd c hcapital
    rw [Bool.and_eq_true, bne_iff_ne, bne_iff_ne] at hboth
    exact iff_of_false hboth.2 hboth.1

/-- A small letter differs from a character without case exactly if the capital one does. -/
theorem toLower_ne_iff {d : Char} (hd : hasNoCase d = true) (c : Char) : c.toLower ≠ d ↔ c ≠ d :=
  not_congr (toLower_eq_iff hd c)

@[simp] theorem foldCase_nil : foldCase [] = [] := rfl

@[simp] theorem foldCase_cons (c : Char) (t : Text) :
    foldCase (c :: t) = c.toLower :: foldCase t := rfl

/-- Letters are made small in each part of a text alone. -/
theorem foldCase_append (t u : Text) : foldCase (t ++ u) = foldCase t ++ foldCase u :=
  List.map_append

/-- Small letters stay what they are. -/
theorem foldCase_foldCase (t : Text) : foldCase (foldCase t) = foldCase t := by
  rw [foldCase, foldCase, List.map_map]
  exact List.map_congr_left fun c _ => toLower_toLower c

section Classes

variable {p : Char → Bool}

/-- For a kind of character that pays no heed to case, the leading characters of that kind are found
in the same place. -/
theorem takeWhile_foldCase (hp : ∀ c, p c.toLower = p c) (t : Text) :
    (foldCase t).takeWhile p = foldCase (t.takeWhile p) := by
  have hblind : p ∘ Char.toLower = p := funext hp
  rw [foldCase, List.takeWhile_map, hblind, foldCase]

/-- So is what stands behind them. -/
theorem dropWhile_foldCase (hp : ∀ c, p c.toLower = p c) (t : Text) :
    (foldCase t).dropWhile p = foldCase (t.dropWhile p) := by
  have hblind : p ∘ Char.toLower = p := funext hp
  rw [foldCase, List.dropWhile_map, hblind, foldCase]

theorem all_foldCase (hp : ∀ c, p c.toLower = p c) (t : Text) : (foldCase t).all p = t.all p := by
  have hblind : p ∘ Char.toLower = p := funext hp
  rw [foldCase, List.all_map, hblind]

/-- A text of characters that have no case is left as it is. -/
theorem foldCase_of_all (hp : capitals.any p = false) {t : Text}
    (ht : ∀ c ∈ t, p c = true) : foldCase t = t := by
  have hsame : ∀ c ∈ t, c.toLower = id c := by
    intro c hc
    refine (toLower_eq_or_mem_capitals c).resolve_right fun hcapital => ?_
    exact List.any_eq_false.mp hp c hcapital (ht c hc)
  exact (List.map_congr_left hsame).trans (List.map_id t)

end Classes

/-- What holds of the first character in either case holds of it in the other. -/
theorem forall_head?_foldCase {P : Char → Prop} (hP : ∀ c : Char, P c.toLower ↔ P c) {t : Text} :
    (∀ c ∈ (foldCase t).head?, P c) ↔ ∀ c ∈ t.head?, P c := by
  cases t with
  | nil => simp
  | cons c t => simpa using hP c

/-- A character without case occurs before and after. -/
theorem mem_foldCase_iff {d : Char} (hd : hasNoCase d = true) {t : Text} :
    d ∈ foldCase t ↔ d ∈ t := by
  rw [foldCase, List.mem_map]
  simp only [toLower_eq_iff hd, exists_eq_right]

/-- A character without case occurs as often as before. -/
theorem count_foldCase {d : Char} (hd : hasNoCase d = true) (t : Text) :
    (foldCase t).count d = t.count d := by
  induction t with
  | nil => rfl
  | cons c t ih =>
    rw [foldCase_cons, List.count_cons, List.count_cons, ih]
    simp only [beq_iff_eq, toLower_eq_iff hd]

/-- A text is blank whatever the case of its letters. -/
theorem isBlank_foldCase (t : Text) : isBlank (foldCase t) = isBlank t :=
  all_foldCase isBlankChar_toLower t

/-- Trimming and making letters small may be done in either order. -/
theorem trim_foldCase (t : Text) : trim (foldCase t) = foldCase (trim t) := by
  have hreverse : ∀ u : Text, (foldCase u).reverse = foldCase u.reverse :=
    fun u => List.map_reverse.symm
  rw [trim, trimStart, dropWhile_foldCase isBlankChar_toLower, trimEnd, hreverse,
    dropWhile_foldCase isBlankChar_toLower, hreverse]
  rfl

/-- Words stay words, one by one. -/
theorem HasWords.foldCase {t : Text} {ws : List Text} (h : HasWords t ws) :
    HasWords (foldCase t) (ws.map Text.foldCase) := by
  induction h with
  | @nil blanks hblanks => exact .nil ((isBlank_foldCase blanks).trans hblanks)
  | @cons blanks word rest ws hblanks hne hword hnext hrest ih =>
    rw [foldCase_append, foldCase_append, List.map_cons]
    refine .cons ((isBlank_foldCase blanks).trans hblanks) (mt List.map_eq_nil_iff.mp hne) ?_ ?_ ih
    · intro c hc
      obtain ⟨d, hd, rfl⟩ := List.mem_map.mp hc
      exact (isBlankChar_toLower d).trans (hword d hd)
    · exact (forall_head?_foldCase fun c => by rw [isBlankChar_toLower]).mpr hnext

/-- The words of a text in small letters are its words in small letters. -/
theorem words_foldCase (t : Text) : words (foldCase t) = (words t).map foldCase :=
  words_of_hasWords (hasWords_words t).foldCase

/-- A letter and its small form have the same lower case. -/
theorem lowerChar_toLower (c : Char) : lowerChar c.toLower = lowerChar c :=
  apply_toLower (by decide) c

/-- What stands around a capital sigma tells the same about the end of the word. -/
theorem meetsCased_foldCase (t : Text) : meetsCased (foldCase t) = meetsCased t := by
  rw [meetsCased, meetsCased, dropWhile_foldCase isCaseIgnorable_toLower]
  cases t.dropWhile isCaseIgnorable with
  | nil => rfl
  | cons c rest => exact isCased_toLower c

/-- So they have among other letters, and the case of these does not matter. -/
theorem lowerAt_foldCase (before : Text) (c : Char) (after : Text) :
    lowerAt (foldCase before) c.toLower (foldCase after) = lowerAt before c after := by
  simp only [lowerAt, toLower_eq_iff (d := 'Σ') (by decide), toLower_eq_iff (d := 'İ') (by decide),
    meetsCased_foldCase, lowerChar_toLower]

/-- The lower case of a text does not depend on the case of its ASCII letters. -/
theorem lower_foldCase (t : Text) : lower (foldCase t) = lower t := by
  suffices h : ∀ before, lowerFrom (foldCase before) (foldCase t) = lowerFrom before t from h []
  induction t with
  | nil => exact fun before => rfl
  | cons c t ih =>
    intro before
    rw [foldCase_cons, lowerFrom, lowerAt_foldCase, ← foldCase_cons, ih, lowerFrom]

namespace SameLetters

variable {t u : Text}

theorem symm (h : SameLetters t u) : SameLetters u t := Eq.symm h

/-- What does not change when the capitals are made small is the same of texts with the same
letters. -/
theorem apply_eq {α : Type} {f : Text → α} (hf : ∀ t, f (foldCase t) = f t)
    (h : SameLetters t u) : f t = f u := by
  rw [← hf t, h, hf]

end SameLetters

end DiceBot.Text
