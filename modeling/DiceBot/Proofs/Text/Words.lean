import DiceBot.Proofs.Text.Numeral
import DiceBot.Text.Blank

/-!
# Blanks and words

What is left of a text without the blanks at its ends, and what its words are, stated by how the
text is made up of them. Either is determined by the text.
-/

namespace DiceBot.Text

/-- A text splits behind its leading characters of a kind. -/
theorem takeWhile_dropWhile_append {p : Char → Bool} {lead u : Text}
    (hlead : ∀ c ∈ lead, p c = true) (hu : ∀ c ∈ u.head?, p c = false) :
    (lead ++ u).takeWhile p = lead ∧ (lead ++ u).dropWhile p = u := by
  rw [List.takeWhile_append_of_pos hlead, List.dropWhile_append_of_pos hlead]
  cases u with
  | nil => exact ⟨List.append_nil lead, rfl⟩
  | cons c u => simp [hu c rfl]

/-- Where two texts split behind their leading characters of a kind, equal texts have equal
parts. -/
theorem append_inj_of_head {p : Char → Bool} {lead lead' u u' : Text}
    (hlead : ∀ c ∈ lead, p c = true) (hlead' : ∀ c ∈ lead', p c = true)
    (hu : ∀ c ∈ u.head?, p c = false) (hu' : ∀ c ∈ u'.head?, p c = false)
    (h : lead ++ u = lead' ++ u') : lead = lead' ∧ u = u' := by
  obtain ⟨htake, hdrop⟩ := takeWhile_dropWhile_append hlead hu
  obtain ⟨htake', hdrop'⟩ := takeWhile_dropWhile_append hlead' hu'
  rw [h] at htake hdrop
  exact ⟨htake.symm.trans htake', hdrop.symm.trans hdrop'⟩

/-- What holds of the first character if there is one. -/
theorem forall_head?_iff {P : Char → Prop} {t : Text} :
    (∀ c ∈ t.head?, P c) ↔ t = [] ∨ ∃ c rest, t = c :: rest ∧ P c := by
  cases t <;> simp

/-- A character that does not occur differs from each that does. -/
theorem bne_of_not_mem {c : Char} {t : Text} (h : c ∉ t) : ∀ d ∈ t, (d != c) = true := by
  intro d hd
  rw [bne_iff_ne]
  rintro rfl
  exact h hd

/-- A text splits at the first place where a character stands. -/
theorem takeWhile_dropWhile_bne {c : Char} {lead : Text} (h : c ∉ lead) (rest : Text) :
    (lead ++ c :: rest).takeWhile (· != c) = lead ∧
      (lead ++ c :: rest).dropWhile (· != c) = c :: rest := by
  refine takeWhile_dropWhile_append (bne_of_not_mem h) ?_
  rintro d ⟨⟩
  exact bne_self_eq_false c

/-- A text splits at the last place where a character stands. -/
theorem append_cons_inj_of_not_mem {c : Char} {lead lead' rest rest' : Text} (h : c ∉ rest)
    (h' : c ∉ rest') (heq : lead ++ c :: rest = lead' ++ c :: rest') :
    lead = lead' ∧ rest = rest' := by
  have hreverse := congrArg List.reverse heq
  simp only [List.reverse_append, List.reverse_cons, List.append_assoc,
    List.singleton_append] at hreverse
  have hhead : ∀ t : Text, ∀ d ∈ (c :: t).head?, (d != c) = false := by
    rintro t d ⟨⟩
    exact bne_self_eq_false c
  obtain ⟨hrest, hlead⟩ := append_inj_of_head
    (bne_of_not_mem (mt List.mem_reverse.mp h)) (bne_of_not_mem (mt List.mem_reverse.mp h'))
    (hhead _) (hhead _) hreverse
  exact ⟨List.reverse_inj.mp (List.cons.inj hlead).2, List.reverse_inj.mp hrest⟩

/-- What is left when a text is stripped of leading characters of a kind. -/
theorem dropWhile_eq_iff {p : Char → Bool} {t u : Text} :
    t.dropWhile p = u ↔
      ∃ lead, (∀ c ∈ lead, p c = true) ∧ t = lead ++ u ∧ ∀ c ∈ u.head?, p c = false := by
  constructor
  · rintro rfl
    refine ⟨t.takeWhile p, List.all_eq_true.mp List.all_takeWhile,
      List.takeWhile_append_dropWhile.symm, ?_⟩
    intro c hc
    have hhead := List.head?_dropWhile_not p t
    rw [hc] at hhead
    simpa using hhead
  · rintro ⟨lead, hlead, rfl, hu⟩
    exact (takeWhile_dropWhile_append hlead hu).2

/-- From the digits to the small letters of ASCII no character is blank. -/
theorem isBlankChar_of_between {c : Char} (hlow : 0x30 ≤ c.toNat) (hhigh : c.toNat ≤ 0x7A) :
    isBlankChar c = false :=
  of_toNat_lt (P := fun c => 0x30 ≤ c.toNat → isBlankChar c = false) (b := 0x7B) (by decide)
    (by omega) hlow

/-- No digit is blank. -/
theorem isBlankChar_of_isDigit {c : Char} (hc : c.isDigit = true) : isBlankChar c = false := by
  obtain ⟨hlow, hhigh⟩ := isDigit_iff.mp hc
  exact isBlankChar_of_between hlow (by omega)

/-- Whether a text without its leading blanks is another. -/
def StartsAt (t u : Text) : Prop :=
  ∃ lead, isBlank lead = true ∧ t = lead ++ u ∧ ∀ c ∈ u.head?, isBlankChar c = false

/-- Stripping finds what a text starts at. -/
theorem startsAt_iff {t u : Text} : StartsAt t u ↔ u = trimStart t := by
  rw [eq_comm, trimStart, dropWhile_eq_iff, StartsAt]
  simp only [isBlank, List.all_eq_true]

theorem startsAt_trimStart (t : Text) : StartsAt t (trimStart t) := startsAt_iff.mpr rfl

/-- Nothing is stripped from a text that begins with an inked character. -/
theorem trimStart_cons {c : Char} (hc : isBlankChar c = false) (t : Text) :
    trimStart (c :: t) = c :: t := by
  rw [trimStart, List.dropWhile_cons_of_neg (by simp [hc])]

/-- Blanks in front of a text are stripped with its own. -/
theorem trimStart_blanks {blanks : Text} (h : isBlank blanks = true) (rest : Text) :
    trimStart (blanks ++ rest) = trimStart rest :=
  List.dropWhile_append_of_pos (List.all_eq_true.mp h)

/-- Whether a text without the blanks at its ends is another. -/
def TrimsTo (t u : Text) : Prop :=
  ∃ lead trail, isBlank lead = true ∧ isBlank trail = true ∧ t = lead ++ (u ++ trail) ∧
    (∀ c ∈ u.head?, isBlankChar c = false) ∧ ∀ c ∈ u.getLast?, isBlankChar c = false

theorem isBlank_reverse (t : Text) : isBlank t.reverse = isBlank t := List.all_reverse

/-- What is left of a text without the blanks behind it. -/
theorem trimEnd_eq_iff {t u : Text} :
    trimEnd t = u ↔
      ∃ trail, isBlank trail = true ∧ t = u ++ trail ∧ ∀ c ∈ u.getLast?, isBlankChar c = false := by
  rw [trimEnd, List.reverse_eq_iff, dropWhile_eq_iff]
  constructor
  · rintro ⟨lead, hlead, ht, hhead⟩
    refine ⟨lead.reverse, ?_, ?_, by simpa using hhead⟩
    · rw [isBlank_reverse]
      exact List.all_eq_true.mpr hlead
    · simpa using congrArg List.reverse ht
  · rintro ⟨trail, htrail, rfl, hlast⟩
    refine ⟨trail.reverse, ?_, by simp, by simpa using hlast⟩
    rw [← isBlank_reverse] at htrail
    exact List.all_eq_true.mp htrail

/-- Trimming finds what a text trims to, so there is one such text. -/
theorem trimsTo_iff {t u : Text} : TrimsTo t u ↔ u = trim t := by
  constructor
  · rintro ⟨lead, trail, hlead, htrail, rfl, hhead, hlast⟩
    rw [eq_comm, trim]
    cases u with
    | nil =>
      have hblank : trimStart (lead ++ ([] ++ trail)) = [] := by
        rw [trimStart, dropWhile_eq_iff]
        refine ⟨lead ++ trail, ?_, by simp, fun c hc => by cases hc⟩
        intro c hc
        rcases List.mem_append.mp hc with hmem | hmem
        · exact List.all_eq_true.mp hlead c hmem
        · exact List.all_eq_true.mp htrail c hmem
      rw [hblank]
      rfl
    | cons c u =>
      have hstart : trimStart (lead ++ (c :: u ++ trail)) = c :: u ++ trail := by
        rw [trimStart, dropWhile_eq_iff]
        exact ⟨lead, List.all_eq_true.mp hlead, rfl, hhead⟩
      rw [hstart, trimEnd_eq_iff]
      exact ⟨trail, htrail, rfl, hlast⟩
  · intro hu
    obtain ⟨lead, hlead, ht, hhead⟩ := startsAt_trimStart t
    obtain ⟨trail, htrail, hsplit, hlast⟩ := trimEnd_eq_iff.mp hu.symm
    refine ⟨lead, trail, hlead, htrail, by rw [← hsplit]; exact ht, ?_, hlast⟩
    intro c hc
    apply hhead
    rw [hsplit]
    cases u with
    | nil => cases hc
    | cons d u => exact hc

/-- Whether a text neither begins nor ends with a blank. -/
def IsTrimmed (t : Text) : Prop :=
  (∀ c ∈ t.head?, isBlankChar c = false) ∧ ∀ c ∈ t.getLast?, isBlankChar c = false

/-- What a text trims to has no blanks at its ends. -/
theorem TrimsTo.isTrimmed {t u : Text} (h : TrimsTo t u) : IsTrimmed u := by
  obtain ⟨lead, trail, -, -, -, hhead, hlast⟩ := h
  exact ⟨hhead, hlast⟩

theorem isTrimmed_trim (t : Text) : IsTrimmed (trim t) := (trimsTo_iff.mpr rfl).isTrimmed

/-- A text without blanks at its ends trims to itself. -/
theorem IsTrimmed.trimsTo {t : Text} (h : IsTrimmed t) : TrimsTo t t :=
  ⟨[], [], rfl, rfl, by simp, h⟩

/-- Blanks at the ends of a text are trimmed away. -/
theorem trim_blanks {lead trail t : Text} (hlead : isBlank lead = true)
    (htrail : isBlank trail = true) (ht : IsTrimmed t) : trim (lead ++ (t ++ trail)) = t :=
  (trimsTo_iff.mp ⟨lead, trail, hlead, htrail, rfl, ht⟩).symm

theorem IsTrimmed.trim_eq {t : Text} (h : IsTrimmed t) : trim t = t :=
  (trimsTo_iff.mp h.trimsTo).symm

theorem trimStart_trimStart (t : Text) : trimStart (trimStart t) = trimStart t := by
  rw [trimStart, dropWhile_eq_iff]
  obtain ⟨-, -, -, hhead⟩ := startsAt_trimStart t
  exact ⟨[], by simp, rfl, hhead⟩

/-- Stripping leading blanks first makes no difference to trimming. -/
theorem trim_trimStart (t : Text) : trim (trimStart t) = trim t := by
  rw [trim, trimStart_trimStart, trim]

/-- A text is trimmed if it begins with a trimmed one that is not empty and ends with another. -/
theorem IsTrimmed.append {t u : Text} (between : Text) (ht : IsTrimmed t) (hu : IsTrimmed u)
    (htne : t ≠ []) (hune : u ≠ []) : IsTrimmed (t ++ (between ++ u)) := by
  constructor
  · intro c hc
    rw [List.head?_append, List.head?_eq_some_head htne, Option.some_or] at hc
    apply ht.1
    rwa [List.head?_eq_some_head htne]
  · intro c hc
    rw [← List.append_assoc, List.getLast?_append, List.getLast?_eq_some_getLast hune,
      Option.some_or] at hc
    apply hu.2
    rwa [List.getLast?_eq_some_getLast hune]

/-- Whether a text is made up of words with blanks between them, and maybe around them. -/
inductive HasWords : Text → List Text → Prop
  | nil {blanks : Text} (hblanks : isBlank blanks = true) : HasWords blanks []
  | cons {blanks word rest : Text} {ws : List Text} (hblanks : isBlank blanks = true)
      (hne : word ≠ []) (hword : ∀ c ∈ word, isBlankChar c = false)
      (hnext : ∀ c ∈ rest.head?, isBlankChar c = true) (hrest : HasWords rest ws) :
      HasWords (blanks ++ (word ++ rest)) (word :: ws)

/-- Blanks in front of a text do not change its words. -/
theorem words_blanks {blanks : Text} (h : isBlank blanks = true) (rest : Text) :
    words (blanks ++ rest) = words rest := by
  induction blanks with
  | nil => rfl
  | cons c blanks ih =>
    obtain ⟨hc, hblanks⟩ := Bool.and_eq_true_iff.mp h
    rw [List.cons_append, words_cons_blank hc, ih hblanks]

/-- A word that the text ends with, or that a blank follows, is the first of the words. -/
theorem words_append {word rest : Text} (hne : word ≠ [])
    (hword : ∀ c ∈ word, isBlankChar c = false) (hnext : ∀ c ∈ rest.head?, isBlankChar c = true) :
    words (word ++ rest) = word :: words rest := by
  induction word with
  | nil => exact absurd rfl hne
  | cons c word ih =>
    have hc := hword c List.mem_cons_self
    cases word with
    | nil =>
      cases rest with
      | nil => simp [words, hc]
      | cons d rest => simp [words, hc, hnext d rfl]
    | cons d word =>
      have hd := hword d (List.mem_cons_of_mem c List.mem_cons_self)
      have hwords := ih (List.cons_ne_nil d word) fun b hb => hword b (List.mem_cons_of_mem c hb)
      rw [List.cons_append] at hwords
      simp [words, hc, hd, hwords]

/-- A text without blanks is one word. -/
theorem words_word {word : Text} (hne : word ≠ []) (hword : ∀ c ∈ word, isBlankChar c = false) :
    words word = [word] := by
  have hend : ∀ c ∈ ([] : Text).head?, isBlankChar c = true := fun c hc => by cases hc
  simpa [words] using words_append hne hword hend

/-- Splitting finds the words that a text has. -/
theorem words_of_hasWords {t : Text} {ws : List Text} (h : HasWords t ws) : words t = ws := by
  induction h with
  | @nil blanks hblanks => simpa using words_blanks hblanks []
  | cons hblanks hne hword hnext hrest ih =>
    rw [words_blanks hblanks, words_append hne hword hnext, ih]

/-- A text that is not blank begins with a word. -/
theorem exists_word {c : Char} (hc : isBlankChar c = false) (t : Text) :
    ∃ word rest, c :: t = (c :: word) ++ rest ∧ (∀ d ∈ c :: word, isBlankChar d = false) ∧
      ∀ d ∈ rest.head?, isBlankChar d = true := by
  obtain ⟨word, hword, hsplit, hnext⟩ :=
    dropWhile_eq_iff.mp (Eq.refl (t.dropWhile fun d => !isBlankChar d))
  refine ⟨word, t.dropWhile fun d => !isBlankChar d, ?_, ?_, ?_⟩
  · rw [List.cons_append, ← hsplit]
  · intro d hd
    rcases List.mem_cons.mp hd with rfl | hd
    · exact hc
    · simpa using hword d hd
  · intro d hd
    simpa using hnext d hd

/-- Every text is made up of words. The induction is on the length, from one word to what follows
it. -/
theorem hasWords_words (t : Text) : HasWords t (words t) := by
  suffices h : ∀ n (t : Text), t.length ≤ n → ∃ ws, HasWords t ws by
    obtain ⟨ws, hws⟩ := h t.length t (Nat.le_refl _)
    rw [words_of_hasWords hws]
    exact hws
  intro n
  induction n with
  | zero =>
    intro t ht
    obtain rfl := List.eq_nil_of_length_eq_zero (Nat.le_zero.mp ht)
    exact ⟨[], .nil rfl⟩
  | succ n ih =>
    intro t ht
    obtain ⟨blanks, hblanks, hsplit, hhead⟩ := startsAt_trimStart t
    cases hstart : trimStart t with
    | nil =>
      rw [hstart, List.append_nil] at hsplit
      exact ⟨[], hsplit ▸ .nil hblanks⟩
    | cons c u =>
      obtain ⟨word, rest, hcut, hword, hnext⟩ := exists_word (hhead c (by rw [hstart]; rfl)) u
      rw [hstart, hcut] at hsplit
      have hlength : rest.length ≤ n := by
        have hsum := congrArg List.length hsplit
        simp only [List.length_append, List.length_cons] at hsum
        omega
      obtain ⟨ws, hws⟩ := ih rest hlength
      rw [hsplit]
      exact ⟨_, .cons hblanks (List.cons_ne_nil c word) hword hnext hws⟩

/-- Words are not empty and hold no blanks. -/
theorem HasWords.sound {t : Text} {ws : List Text} (h : HasWords t ws) :
    ∀ word ∈ ws, word ≠ [] ∧ ∀ c ∈ word, isBlankChar c = false := by
  induction h with
  | nil => exact fun word hword => absurd hword List.not_mem_nil
  | cons hblanks hne hword hnext hrest ih =>
    intro other hother
    rcases List.mem_cons.mp hother with rfl | hother
    · exact ⟨hne, hword⟩
    · exact ih other hother

/-- A text has one list of words, which is what splitting finds. -/
theorem words_eq_iff {t : Text} {ws : List Text} : words t = ws ↔ HasWords t ws := by
  constructor
  · rintro rfl
    exact hasWords_words t
  · exact words_of_hasWords

/-- Whether a text is one word. -/
def IsWord (t : Text) : Prop := t ≠ [] ∧ ∀ c ∈ t, isBlankChar c = false

theorem not_blank_of_all {t : Text} (h : (t.all fun c => !isBlankChar c) = true) :
    ∀ c ∈ t, isBlankChar c = false := by
  simpa using h

theorem IsWord.isTrimmed {word : Text} (h : IsWord word) : IsTrimmed word :=
  ⟨fun c hc => h.2 c (List.mem_of_mem_head? hc), fun c hc => h.2 c (List.mem_of_getLast? hc)⟩

/-- What splitting finds are words. -/
theorem isWord_of_mem_words {t word : Text} (h : word ∈ words t) : IsWord word :=
  (hasWords_words t).sound word h

/-- The characters of a word are characters of the text. -/
theorem mem_of_mem_words {t word : Text} {c : Char} (hword : word ∈ words t) (hc : c ∈ word) :
    c ∈ t := by
  have ht := hasWords_words t
  generalize words t = ws at ht hword
  induction ht with
  | nil hblanks => cases hword
  | cons hblanks hne hblank hnext hrest ih =>
    rcases List.mem_cons.mp hword with rfl | hword
    · exact List.mem_append_right _ (List.mem_append_left _ hc)
    · exact List.mem_append_right _ (List.mem_append_right _ (ih hword))

/-- A word of a text has itself for its only word. -/
theorem words_of_mem_words {t word : Text} (h : word ∈ words t) : words word = [word] := by
  obtain ⟨hne, hword⟩ := isWord_of_mem_words h
  exact words_word hne hword

/-- The words of two texts with a blank between them are those of the first, then those of the
second. -/
theorem words_append_blank {c : Char} (hc : isBlankChar c = true) (t u : Text) :
    words (t ++ c :: u) = words t ++ words u := by
  have ht := hasWords_words t
  generalize words t = ws at ht
  induction ht with
  | nil hblanks =>
    rw [words_blanks hblanks, words_cons_blank hc]
    rfl
  | @cons blanks word rest ws hblanks hne hword hnext hrest ih =>
    have hnext' : ∀ d ∈ (rest ++ c :: u).head?, isBlankChar d = true := by
      intro d hd
      cases rest with
      | nil =>
        obtain rfl : c = d := Option.some.inj hd
        exact hc
      | cons e rest => exact hnext d hd
    rw [List.append_assoc, List.append_assoc, words_blanks hblanks, words_append hne hword hnext',
      ih]
    rfl

/-- So it is if the second text begins with a blank, or is empty. -/
theorem words_append_break {rest : Text} (h : ∀ c ∈ rest.head?, isBlankChar c = true) (t : Text) :
    words (t ++ rest) = words t ++ words rest := by
  cases rest with
  | nil => simp
  | cons c rest => rw [words_append_blank (h c rfl), words_cons_blank (h c rfl)]

/-- The blanks at the ends of a text belong to no word. -/
theorem words_trim (t : Text) : words (trim t) = words t := by
  obtain ⟨lead, trail, hlead, htrail, ht, -, -⟩ := trimsTo_iff.mpr (Eq.refl (trim t))
  have hbreak : ∀ c ∈ trail.head?, isBlankChar c = true :=
    fun c hc => List.all_eq_true.mp htrail c (List.mem_of_mem_head? hc)
  have hnone : words trail = [] := words_of_hasWords (.nil htrail)
  calc words (trim t) = words (lead ++ (trim t ++ trail)) := by
        rw [words_blanks hlead, words_append_break hbreak, hnone, List.append_nil]
    _ = words t := by rw [← ht]

/-- A text without blanks at its ends begins with its first word, and ends with it if there is no
other. -/
theorem exists_rest_of_words {t word : Text} {ws : List Text} (ht : IsTrimmed t)
    (h : words t = word :: ws) :
    ∃ rest, t = word ++ rest ∧ (∀ c ∈ rest.head?, isBlankChar c = true) ∧ words rest = ws ∧
      (rest = [] ↔ ws = []) := by
  cases words_eq_iff.mp h with
  | @cons blanks _ rest _ hblanks hne hword hnext hrest =>
    have hstart : blanks = [] := by
      cases blanks with
      | nil => rfl
      | cons c blanks =>
        have hc := List.all_eq_true.mp hblanks c List.mem_cons_self
        exact absurd (hc.symm.trans (ht.1 c rfl)) Bool.noConfusion
    have hend : ws = [] → rest = [] := by
      rintro rfl
      cases hrest with
      | nil hrest =>
        cases hlast : rest.getLast? with
        | none => exact List.getLast?_eq_none_iff.mp hlast
        | some c =>
          have hc := List.all_eq_true.mp hrest c (List.mem_of_getLast? hlast)
          refine absurd (hc.symm.trans (ht.2 c ?_)) Bool.noConfusion
          rw [List.getLast?_append, List.getLast?_append, hlast]
          rfl
    rw [hstart]
    refine ⟨rest, rfl, hnext, words_of_hasWords hrest, ?_, hend⟩
    rintro rfl
    exact (words_of_hasWords hrest).symm

/-- What a word with a break behind it begins with lies in the word if it holds no blank. -/
theorem exists_of_word_append_eq {word rest lead t : Text}
    (hrest : ∀ c ∈ rest.head?, isBlankChar c = true) (hlead : ∀ c ∈ lead, isBlankChar c = false)
    (h : word ++ rest = lead ++ t) : ∃ u, word = lead ++ u ∧ t = u ++ rest := by
  rcases List.append_eq_append_iff.mp h with ⟨u, hsplit, htail⟩ | ⟨u, hword, ht⟩
  · cases u with
    | nil =>
      rw [List.append_nil] at hsplit
      exact ⟨[], by rw [hsplit, List.append_nil], htail.symm⟩
    | cons c u =>
      have hc : isBlankChar c = true := hrest c (by rw [htail]; rfl)
      have hmem : c ∈ lead := by
        rw [hsplit]
        exact List.mem_append_right _ List.mem_cons_self
      exact absurd (hc.symm.trans (hlead c hmem)) Bool.noConfusion
  · exact ⟨u, hword, ht⟩

theorem join_cons_cons (separator t u : Text) (ts : List Text) :
    join separator (t :: u :: ts) = t ++ (separator ++ join separator (u :: ts)) := by
  simp [join, List.intercalate]

/-- Behind the first of some texts that are joined, each is behind a separator. -/
theorem join_cons (separator t : Text) (ts : List Text) :
    join separator (t :: ts) = t ++ ts.flatMap (separator ++ ·) := by
  induction ts generalizing t with
  | nil => simp [join, List.intercalate]
  | cons u ts ih => rw [join_cons_cons, ih, List.flatMap_cons, List.append_assoc]

/-- Texts put together are as long as they are one by one, with a separator for each but one. -/
theorem length_join (separator : Text) (ts : List Text) :
    (join separator ts).length =
      (ts.map List.length).sum + separator.length * (ts.length - 1) := by
  cases ts with
  | nil => rfl
  | cons t ts =>
    have hrest : (ts.flatMap (separator ++ ·)).length =
        (ts.map List.length).sum + separator.length * ts.length := by
      induction ts with
      | nil => rfl
      | cons u ts ih =>
        rw [List.flatMap_cons, List.length_append, List.length_append, ih, List.map_cons,
          List.sum_cons, List.length_cons, Nat.mul_succ]
        omega
    rw [join_cons, List.length_append, hrest, List.map_cons, List.sum_cons, List.length_cons,
      Nat.add_sub_cancel, Nat.add_assoc]

/-- The characters of texts put together are those of the texts and of the separator. -/
theorem mem_join {separator : Text} {ts : List Text} {c : Char} (hc : c ∈ join separator ts) :
    c ∈ separator ∨ ∃ t ∈ ts, c ∈ t := by
  cases ts with
  | nil => cases hc
  | cons t ts =>
    rw [join_cons, List.mem_append, List.mem_flatMap] at hc
    rcases hc with ht | ⟨u, hu, hc⟩
    · exact Or.inr ⟨t, List.mem_cons_self, ht⟩
    · rcases List.mem_append.mp hc with hseparator | hc
      · exact Or.inl hseparator
      · exact Or.inr ⟨u, List.mem_cons_of_mem t hu, hc⟩

section Injectivity

variable {c : Char} {separator : Text}

/-- What stands behind the first of some joined texts begins with the separator. -/
theorem head?_flatMap_separator (ts : List Text) :
    ∀ d ∈ (ts.flatMap (c :: separator ++ ·)).head?, (d != c) = false := by
  intro d hd
  cases ts with
  | nil => cases hd
  | cons t ts =>
    cases hd
    exact bne_self_eq_false c

/-- Texts that do not hold the first character of the separator are told from what they make up with
a separator in front of each. -/
theorem flatMap_separator_injective {ts us : List Text} (hts : ∀ t ∈ ts, c ∉ t)
    (hus : ∀ u ∈ us, c ∉ u)
    (h : ts.flatMap (c :: separator ++ ·) = us.flatMap (c :: separator ++ ·)) : ts = us := by
  induction ts generalizing us with
  | nil =>
    cases us with
    | nil => rfl
    | cons u us => cases h
  | cons t ts ih =>
    cases us with
    | nil => cases h
    | cons u us =>
      rw [List.flatMap_cons, List.flatMap_cons, List.append_assoc, List.append_assoc] at h
      obtain ⟨rfl, hrest⟩ := append_inj_of_head (bne_of_not_mem (hts t List.mem_cons_self))
        (bne_of_not_mem (hus u List.mem_cons_self)) (head?_flatMap_separator ts)
        (head?_flatMap_separator us) (List.append_cancel_left h)
      rw [ih (fun v hv => hts v (List.mem_cons_of_mem t hv))
        (fun v hv => hus v (List.mem_cons_of_mem t hv)) hrest]

/-- Texts that are not empty and do not hold the first character of the separator are told from what
they make up. -/
theorem join_injective {ts us : List Text} (hts : ∀ t ∈ ts, t ≠ [] ∧ c ∉ t)
    (hus : ∀ u ∈ us, u ≠ [] ∧ c ∉ u)
    (h : join (c :: separator) ts = join (c :: separator) us) : ts = us := by
  have hnil : join (c :: separator) [] = [] := rfl
  cases ts with
  | nil =>
    cases us with
    | nil => rfl
    | cons u us =>
      rw [hnil, join_cons, eq_comm, List.append_eq_nil_iff] at h
      exact absurd h.1 (hus u List.mem_cons_self).1
  | cons t ts =>
    cases us with
    | nil =>
      rw [hnil, join_cons, List.append_eq_nil_iff] at h
      exact absurd h.1 (hts t List.mem_cons_self).1
    | cons u us =>
      rw [join_cons, join_cons] at h
      obtain ⟨rfl, hrest⟩ := append_inj_of_head (bne_of_not_mem (hts t List.mem_cons_self).2)
        (bne_of_not_mem (hus u List.mem_cons_self).2) (head?_flatMap_separator ts)
        (head?_flatMap_separator us) h
      rw [flatMap_separator_injective (fun v hv => (hts v (List.mem_cons_of_mem t hv)).2)
        (fun v hv => (hus v (List.mem_cons_of_mem t hv)).2) hrest]

end Injectivity

/-- Words that are put together with spaces are those of the text. -/
theorem words_join {ws : List Text} (h : ∀ word ∈ ws, IsWord word) :
    words (join [' '] ws) = ws := by
  induction ws with
  | nil => rfl
  | cons word ws ih =>
    obtain ⟨hne, hword⟩ := h word List.mem_cons_self
    cases ws with
    | nil => simpa [join, List.intercalate] using words_word hne hword
    | cons next ws =>
      have hrest := ih fun other hother => h other (List.mem_cons_of_mem word hother)
      rw [join_cons_cons, List.singleton_append, words_append_blank (by decide), hrest,
        words_word hne hword]
      rfl

/-- Words that are put together with spaces leave no blanks at the ends. -/
theorem isTrimmed_join {ws : List Text} (h : ∀ word ∈ ws, IsWord word) :
    IsTrimmed (join [' '] ws) := by
  induction ws with
  | nil => exact isTrimmed_trim []
  | cons word ws ih =>
    have hword := h word List.mem_cons_self
    cases ws with
    | nil => simpa [join, List.intercalate] using hword.isTrimmed
    | cons next ws =>
      have hrest : ∀ other ∈ next :: ws, IsWord other :=
        fun other hother => h other (List.mem_cons_of_mem word hother)
      have hne : join [' '] (next :: ws) ≠ [] := by
        intro hnil
        have hwords := words_join hrest
        rw [hnil] at hwords
        cases hwords
      rw [join_cons_cons]
      exact hword.isTrimmed.append [' '] (ih hrest) hword.1 hne

end DiceBot.Text
