import Mathlib.Data.List.Basic
import DiceBot.Proofs.Text.Digits
import DiceBot.Proofs.Text.Words

/-!
# Unescaping

A text is cut into pieces, each an entity or a character that stands for itself, so that every
entity of the text is a piece; unescaping replaces each piece by its character. Every way to write a
text with entities, in which only an ampersand must not stand for itself, is therefore undone.
-/

namespace DiceBot.Text

/-- Whether a text denotes a number, maybe with one plus sign before the digits. -/
def IsNumber (base : Nat) (t : Text) (n : Nat) : Prop :=
  IsNumeral base t n ∨ ∃ digits, t = '+' :: digits ∧ IsNumeral base digits n

/-- What stands between the ampersand and the semicolon of an entity, and the character that the
entity stands for. -/
inductive Entity : Text → Char → Prop
  | amp : Entity "amp".toList '&'
  | lt : Entity "lt".toList '<'
  | gt : Entity "gt".toList '>'
  | quot : Entity "quot".toList '"'
  | apos : Entity "apos".toList '\''
  | decimal {number : Text} {c : Char} (hnumber : IsNumber 10 number c.toNat) :
      Entity ('#' :: number) c
  | hexadecimal {x : Char} {number : Text} {c : Char} (hx : x = 'x' ∨ x = 'X')
      (hnumber : IsNumber 16 number c.toNat) : Entity ('#' :: x :: number) c

/-- No digit is a sign that may stand around digits in an entity. -/
theorem IsDigitOf.ne {base value : Nat} (hbase : base ≤ 16) {c : Char}
    (h : IsDigitOf base c value) : c ≠ '&' ∧ c ≠ '+' ∧ c ≠ ';' := by
  obtain ⟨-, hrange⟩ := (isDigitOf_iff hbase).mp h
  refine ⟨?_, ?_, ?_⟩
  all_goals
    rintro rfl
    simp only [Char.reduceToNat] at hrange
    omega

/-- A numeral holds no mark that an entity is told by. -/
theorem IsNumeral.not_mem {base n : Nat} (hbase : base ≤ 16) {digits : Text}
    (h : IsNumeral base digits n) : '&' ∉ digits ∧ '+' ∉ digits ∧ ';' ∉ digits := by
  have hne : ∀ c ∈ digits, c ≠ '&' ∧ c ≠ '+' ∧ c ≠ ';' := by
    intro c hc
    obtain ⟨value, hdigit⟩ := h.isDigitOf c hc
    exact hdigit.ne hbase
  exact ⟨fun hmem => (hne _ hmem).1 rfl, fun hmem => (hne _ hmem).2.1 rfl,
    fun hmem => (hne _ hmem).2.2 rfl⟩

/-- A number is a numeral with or without a plus sign. -/
theorem isNumeral_dropPlus_iff {base n : Nat} (hbase : base ≤ 16) {t : Text} :
    IsNumeral base (dropPlus t) n ↔ IsNumber base t n := by
  unfold dropPlus
  split
  · next digits =>
    constructor
    · exact fun h => Or.inr ⟨digits, rfl, h⟩
    · rintro (h | ⟨digits', heq, h⟩)
      · exact absurd List.mem_cons_self (h.not_mem hbase).2.1
      · rwa [List.tail_eq_of_cons_eq heq]
  · next hplus =>
    constructor
    · exact Or.inl
    · rintro (h | ⟨digits, rfl, -⟩)
      · exact h
      · exact absurd rfl (hplus digits)

/-- A character is found by its own scalar value. -/
theorem scalar?_eq_some_iff {n : Nat} {c : Char} : scalar? n = some c ↔ n = c.toNat := by
  simp only [scalar?, Option.ite_none_right_eq_some, Option.some.injEq]
  constructor
  · rintro ⟨hvalid, rfl⟩
    rw [Char.ofNat, dif_pos hvalid]
    rfl
  · rintro rfl
    exact ⟨c.valid, Char.ofNat_toNat c⟩

/-- What a number in an entity stands for, given a reader of digits. -/
theorem bind_scalar?_eq_some_iff {read? : Text → Option Nat} {base : Nat} (hbase : base ≤ 16)
    (hread : ∀ t n, read? t = some n ↔ IsNumeral base t n) {t : Text} {c : Char} :
    (read? (dropPlus t)).bind scalar? = some c ↔ IsNumber base t c.toNat := by
  rw [← isNumeral_dropPlus_iff hbase, ← hread, Option.bind_eq_some_iff]
  constructor
  · rintro ⟨n, hn, hc⟩
    rw [hn, scalar?_eq_some_iff.mp hc]
  · exact fun hn => ⟨c.toNat, hn, scalar?_eq_some_iff.mpr rfl⟩

/-- Reading in base sixteen finds the character that a number denotes. -/
theorem bind_hexadecimal?_iff {t : Text} {c : Char} :
    (hexadecimal? (dropPlus t)).bind scalar? = some c ↔ IsNumber 16 t c.toNat :=
  bind_scalar?_eq_some_iff (Nat.le_refl 16) fun _ _ => hexadecimal?_eq_some_iff

/-- Reading in base ten finds the character that a number denotes. -/
theorem bind_natural?_iff {t : Text} {c : Char} :
    (natural? (dropPlus t)).bind scalar? = some c ↔ IsNumber 10 t c.toNat :=
  bind_scalar?_eq_some_iff (by decide) fun _ _ => natural?_eq_some_iff

/-- A decimal number does not begin with a letter. -/
theorem IsNumber.head?_le {t : Text} {n : Nat} (h : IsNumber 10 t n) :
    ∀ c ∈ t.head?, c.toNat ≤ 57 := by
  rcases h with h | ⟨digits, rfl, -⟩
  · exact fun c hc => (isDigit_iff.mp (h.isDigit c (List.mem_of_mem_head? hc))).2
  · rintro c ⟨⟩
    decide

/-- No name of an entity begins with the mark of a number. -/
theorem lookup_sharp (t : Text) : namedEntities.lookup ('#' :: t) = none := by
  simp [namedEntities, List.lookup_cons]

/-- What the table names are entities. -/
theorem entity_of_mem_namedEntities {body : Text} {c : Char} (h : (body, c) ∈ namedEntities) :
    Entity body c := by
  simp only [namedEntities, List.mem_cons, List.not_mem_nil, or_false, Prod.mk.injEq] at h
  rcases h with ⟨rfl, rfl⟩ | ⟨rfl, rfl⟩ | ⟨rfl, rfl⟩ | ⟨rfl, rfl⟩ | ⟨rfl, rfl⟩
  · exact .amp
  · exact .lt
  · exact .gt
  · exact .quot
  · exact .apos

/-- What is decoded is an entity, with the character that it stands for. -/
theorem entity_of_entity? {body : Text} {c : Char} (h : entity? body = some c) : Entity body c := by
  cases hlookup : namedEntities.lookup body with
  | some d =>
    obtain rfl : d = c := by simpa [entity?, hlookup] using h
    obtain ⟨before, after, heq, -⟩ := List.lookup_eq_some_iff.mp hlookup
    exact entity_of_mem_namedEntities (by simp [heq])
  | none =>
    simp only [entity?, hlookup] at h
    split at h
    · next heq => cases heq
    · exact .hexadecimal (Or.inl rfl) (bind_hexadecimal?_iff.mp h)
    · exact .hexadecimal (Or.inr rfl) (bind_hexadecimal?_iff.mp h)
    · exact .decimal (bind_natural?_iff.mp h)
    · cases h

/-- Behind the mark of base sixteen a number in that base is read. -/
theorem entity?_hexadecimal {x : Char} (hx : x = 'x' ∨ x = 'X') (t : Text) :
    entity? ('#' :: x :: t) = (hexadecimal? (dropPlus t)).bind scalar? := by
  rcases hx with rfl | rfl
  · simp only [entity?, lookup_sharp]
  · simp only [entity?, lookup_sharp]

/-- Without that mark a number in base ten is read. -/
theorem entity?_decimal {t : Text} (ht : ∀ c ∈ t.head?, c ≠ 'x' ∧ c ≠ 'X') :
    entity? ('#' :: t) = (natural? (dropPlus t)).bind scalar? := by
  cases t with
  | nil => rfl
  | cons c t =>
    obtain ⟨hsmall, hcapital⟩ := ht c rfl
    simp [entity?, lookup_sharp, hsmall, hcapital]

/-- Decoding finds the entities and the characters that they stand for. -/
theorem entity?_eq_some_iff {body : Text} {c : Char} : entity? body = some c ↔ Entity body c := by
  refine ⟨entity_of_entity?, fun h => ?_⟩
  cases h with
  | amp => rfl
  | lt => rfl
  | gt => rfl
  | quot => rfl
  | apos => rfl
  | decimal hnumber =>
    rw [entity?_decimal, bind_natural?_iff]
    · exact hnumber
    · intro x hx
      have hle := hnumber.head?_le x hx
      constructor
      · rintro rfl
        exact absurd hle (by decide)
      · rintro rfl
        exact absurd hle (by decide)
  | hexadecimal hx hnumber =>
    rw [entity?_hexadecimal hx, bind_hexadecimal?_iff]
    exact hnumber

/-- A number holds neither the mark that begins an entity nor the one that ends it. -/
theorem IsNumber.not_mem {base n : Nat} (hbase : base ≤ 16) {t : Text} (h : IsNumber base t n) :
    '&' ∉ t ∧ ';' ∉ t := by
  rcases h with h | ⟨digits, rfl, h⟩
  · exact ⟨(h.not_mem hbase).1, (h.not_mem hbase).2.2⟩
  · simpa using And.intro (h.not_mem hbase).1 (h.not_mem hbase).2.2

/-- What stands between the ampersand and the semicolon of an entity holds neither of the two. -/
theorem Entity.not_mem {body : Text} {c : Char} (h : Entity body c) : '&' ∉ body ∧ ';' ∉ body := by
  cases h with
  | amp => decide
  | lt => decide
  | gt => decide
  | quot => decide
  | apos => decide
  | decimal hnumber => simpa using hnumber.not_mem (by decide)
  | hexadecimal hx hnumber =>
    rcases hx with rfl | rfl
    · simpa using hnumber.not_mem (Nat.le_refl 16)
    · simpa using hnumber.not_mem (Nat.le_refl 16)

/-- An entity stands for one character. -/
theorem Entity.unique {body : Text} {c d : Char} (hc : Entity body c) (hd : Entity body d) :
    c = d := by
  rw [← entity?_eq_some_iff] at hc hd
  exact Option.some.inj (hc.symm.trans hd)

/-- Entities do not overlap: an entity ends before the next ampersand. -/
theorem Entity.ends_before {body rest before after : Text} {c : Char} (h : Entity body c)
    (heq : body ++ ';' :: rest = before ++ '&' :: after) :
    ∃ between, before = body ++ ';' :: between ∧ rest = between ++ '&' :: after := by
  rcases List.append_eq_append_iff.mp heq with ⟨tail, rfl, htail⟩ | ⟨tail, rfl, htail⟩
  · cases tail with
    | nil => cases htail
    | cons d between =>
      obtain ⟨rfl, hrest⟩ := List.cons.inj htail
      exact ⟨between, rfl, hrest⟩
  · cases tail with
    | nil => cases htail
    | cons d tail =>
      obtain ⟨rfl, -⟩ := List.cons.inj htail
      exact absurd (by simp) h.not_mem.1

/-- Whether a text goes on behind an ampersand as an entity does. -/
def CompletesEntity (t : Text) : Prop := ∃ body c rest, Entity body c ∧ t = body ++ ';' :: rest

/-- What is found behind an ampersand is an entity and the mark that ends it. -/
theorem entityAhead?_eq_some {t : Text} {c : Char} {n : Nat} (h : entityAhead? t = some (c, n)) :
    ∃ body rest, Entity body c ∧ t = body ++ ';' :: rest ∧ n = body.length + 1 := by
  unfold entityAhead? at h
  split at h
  · cases h
  · next d rest hdrop =>
    obtain ⟨e, he, hpair⟩ := Option.map_eq_some_iff.mp h
    obtain ⟨rfl, rfl⟩ := Prod.mk.inj hpair
    have hd : d = ';' := by
      have hhead := List.head?_dropWhile_not (· != ';') t
      simpa [hdrop] using hhead
    refine ⟨_, rest, entity?_eq_some_iff.mp he, ?_, rfl⟩
    subst hd
    rw [← hdrop, List.takeWhile_append_dropWhile]

/-- An entity and the mark that ends it are found, whatever follows. -/
theorem entityAhead?_entity {body rest : Text} {c : Char} (h : Entity body c) :
    entityAhead? (body ++ ';' :: rest) = some (c, body.length + 1) := by
  obtain ⟨htake, hdrop⟩ := takeWhile_dropWhile_bne h.not_mem.2 rest
  simp only [entityAhead?, htake, hdrop, entity?_eq_some_iff.mpr h, Option.map_some]

/-- What is skipped does not count. -/
theorem unescapeAfter_eq_drop (skip : Nat) (t : Text) :
    unescapeAfter skip t = unescape (t.drop skip) := by
  induction skip generalizing t with
  | zero => rw [List.drop_zero, unescape]
  | succ skip ih =>
    cases t with
    | nil => rfl
    | cons c t => rw [unescapeAfter, ih, List.drop_succ_cons]

/-- An entity becomes its character. -/
theorem unescape_entity {body : Text} {c : Char} (h : Entity body c) (rest : Text) :
    unescape ('&' :: (body ++ ';' :: rest)) = c :: unescape rest := by
  have hdrop : (body ++ ';' :: rest).drop (body.length + 1) = rest := by
    rw [List.drop_append, Nat.add_sub_cancel_left]
    simp
  simp only [unescape, unescapeAfter, if_true, entityAhead?_entity h]
  rw [unescapeAfter_eq_drop, hdrop, unescape]

/-- A piece without ampersands stays. -/
theorem unescape_append {piece : Text} (h : '&' ∉ piece) (rest : Text) :
    unescape (piece ++ rest) = piece ++ unescape rest := by
  induction piece with
  | nil => rfl
  | cons c piece ih =>
    rw [List.mem_cons, not_or] at h
    rw [List.cons_append, unescape_cons (Ne.symm h.1), ih h.2, List.cons_append]

/-- An ampersand that begins no entity stays. -/
theorem unescape_ampersand {t : Text} (h : ¬CompletesEntity t) :
    unescape ('&' :: t) = '&' :: unescape t := by
  simp only [unescape, unescapeAfter, if_true]
  split
  · next c n hahead =>
    obtain ⟨body, rest, hentity, ht, -⟩ := entityAhead?_eq_some hahead
    exact absurd ⟨body, c, rest, hentity, ht⟩ h
  · rfl

/-- A piece of a text with entities. -/
inductive Piece where
  /-- A character that stands for itself. -/
  | plain (c : Char)
  /-- An entity and its character. -/
  | entity (body : Text) (c : Char)
  deriving DecidableEq, Repr

namespace Piece

/-- A piece as it is written. -/
def written : Piece → Text
  | plain c => [c]
  | entity body _ => '&' :: (body ++ [';'])

/-- The character that a piece stands for. -/
def char : Piece → Char
  | plain c => c
  | entity _ c => c

/-- Whether a piece that is an entity stands for its character. -/
def IsSound : Piece → Prop
  | plain _ => True
  | entity body c => Entity body c

/-- Whether a piece is a way to write its character: as an entity, or as itself unless it is the
ampersand. -/
def IsEscape : Piece → Prop
  | plain c => c ≠ '&'
  | entity body c => Entity body c

/-- Pieces put together. -/
def join (pieces : List Piece) : Text := pieces.flatMap written

/-- Whether the entities among the pieces are sound and none is cut apart: no ampersand that stands
for itself has the rest of an entity behind it. -/
def AreSound : List Piece → Prop
  | [] => True
  | plain c :: pieces => (c = '&' → ¬CompletesEntity (join pieces)) ∧ AreSound pieces
  | entity body c :: pieces => Entity body c ∧ AreSound pieces

@[simp] theorem join_nil : join [] = [] := rfl

@[simp] theorem join_plain (c : Char) (pieces : List Piece) :
    join (plain c :: pieces) = c :: join pieces := rfl

@[simp] theorem join_entity (body : Text) (c : Char) (pieces : List Piece) :
    join (entity body c :: pieces) = '&' :: (body ++ ';' :: join pieces) := by
  simp [join, written]

/-- Each of some pieces that are sound together is sound. -/
theorem AreSound.isSound {pieces : List Piece} (h : AreSound pieces) :
    ∀ piece ∈ pieces, piece.IsSound := by
  induction pieces with
  | nil => exact fun piece hpiece => absurd hpiece List.not_mem_nil
  | cons first pieces ih =>
    intro piece hpiece
    cases first with
    | plain c =>
      rcases List.mem_cons.mp hpiece with rfl | hpiece
      · exact trivial
      · exact ih h.2 piece hpiece
    | entity body c =>
      rcases List.mem_cons.mp hpiece with rfl | hpiece
      · exact h.1
      · exact ih h.2 piece hpiece

/-- Where no ampersand stands for itself, none is cut apart from the rest of an entity. -/
theorem areSound_of_isEscape {pieces : List Piece} (h : ∀ piece ∈ pieces, piece.IsEscape) :
    AreSound pieces := by
  induction pieces with
  | nil => exact trivial
  | cons first pieces ih =>
    have hfirst := h first List.mem_cons_self
    have hrest := ih fun piece hpiece => h piece (List.mem_cons_of_mem first hpiece)
    cases first with
    | plain c => exact ⟨fun hc => absurd hc hfirst, hrest⟩
    | entity body c => exact ⟨hfirst, hrest⟩

/-- Every text is put together from sound pieces. The induction is on the length, since an entity
takes more than one character off the text. -/
theorem exists_areSound (t : Text) : ∃ pieces, join pieces = t ∧ AreSound pieces := by
  suffices h : ∀ n (t : Text), t.length ≤ n → ∃ pieces, join pieces = t ∧ AreSound pieces from
    h t.length t (Nat.le_refl _)
  intro n
  induction n with
  | zero =>
    intro t ht
    obtain rfl := List.eq_nil_of_length_eq_zero (Nat.le_zero.mp ht)
    exact ⟨[], rfl, trivial⟩
  | succ n ih =>
    intro t ht
    cases t with
    | nil => exact ⟨[], rfl, trivial⟩
    | cons c t =>
      rw [List.length_cons] at ht
      by_cases hentity : c = '&' ∧ CompletesEntity t
      · obtain ⟨rfl, body, d, rest, hbody, rfl⟩ := hentity
        simp only [List.length_append, List.length_cons] at ht
        obtain ⟨pieces, rfl, hsound⟩ := ih rest (by omega)
        exact ⟨entity body d :: pieces, join_entity body d pieces, hbody, hsound⟩
      · obtain ⟨pieces, rfl, hsound⟩ := ih t (by omega)
        exact ⟨plain c :: pieces, rfl, fun hc hcompletes => hentity ⟨hc, hcompletes⟩, hsound⟩

/-- Every piece becomes its character. -/
theorem AreSound.unescape_join {pieces : List Piece} (h : AreSound pieces) :
    unescape (join pieces) = pieces.map char := by
  induction pieces with
  | nil => rfl
  | cons first pieces ih =>
    cases first with
    | plain c =>
      rw [join_plain, List.map_cons, ← ih h.2]
      by_cases hc : c = '&'
      · subst hc
        exact unescape_ampersand (h.1 rfl)
      · exact unescape_cons hc (join pieces)
    | entity body c => rw [join_entity, unescape_entity h.1, List.map_cons, ← ih h.2, char]

/-- Every entity that occurs in a text put together from sound pieces is one of the pieces. -/
theorem AreSound.occurrence {pieces : List Piece} (h : AreSound pieces) {before body after : Text}
    {c : Char} (hjoin : join pieces = before ++ '&' :: (body ++ ';' :: after))
    (hbody : Entity body c) :
    ∃ left right, pieces = left ++ entity body c :: right ∧ join left = before ∧
      join right = after := by
  induction pieces generalizing before with
  | nil => simp at hjoin
  | cons first pieces ih =>
    cases first with
    | plain d =>
      rw [join_plain] at hjoin
      cases before with
      | nil =>
        obtain ⟨rfl, hrest⟩ := List.cons.inj hjoin
        exact absurd ⟨body, c, after, hbody, hrest⟩ (h.1 rfl)
      | cons e before =>
        obtain ⟨rfl, hrest⟩ := List.cons.inj hjoin
        obtain ⟨left, right, rfl, rfl, rfl⟩ := ih h.2 hrest
        exact ⟨plain d :: left, right, rfl, rfl, rfl⟩
    | entity body' d =>
      rw [join_entity] at hjoin
      cases before with
      | nil =>
        obtain ⟨-, hrest⟩ := List.cons.inj hjoin
        obtain ⟨htake, hdrop⟩ := takeWhile_dropWhile_bne h.1.not_mem.2 (join pieces)
        obtain ⟨htake', hdrop'⟩ := takeWhile_dropWhile_bne hbody.not_mem.2 after
        rw [hrest, htake'] at htake
        rw [hrest, hdrop'] at hdrop
        subst htake
        obtain rfl := h.1.unique hbody
        exact ⟨[], pieces, rfl, rfl, (List.tail_eq_of_cons_eq hdrop).symm⟩
      | cons e before =>
        obtain ⟨rfl, hrest⟩ := List.cons.inj hjoin
        obtain ⟨between, rfl, hbetween⟩ := h.1.ends_before hrest
        obtain ⟨left, right, rfl, rfl, rfl⟩ := ih h.2 hbetween
        exact ⟨entity body' d :: left, right, rfl, join_entity body' d left, rfl⟩

end Piece

/-- Every text is put together from pieces, sound entities and characters that stand for themselves,
of which every entity that occurs in the text is one; unescaping replaces each piece by its
character. And however a text is written, each character as itself, unless it is an ampersand, or as
any entity that stands for it, unescaping gives the text back. -/
theorem unescape_exact :
    (∀ t : Text, ∃ pieces : List Piece, Piece.join pieces = t ∧
      (∀ piece ∈ pieces, piece.IsSound) ∧
      (∀ before body c after, t = before ++ '&' :: (body ++ ';' :: after) → Entity body c →
        ∃ left right, pieces = left ++ .entity body c :: right ∧ Piece.join left = before ∧
          Piece.join right = after) ∧
      unescape t = pieces.map Piece.char) ∧
    ∀ pieces : List Piece, (∀ piece ∈ pieces, piece.IsEscape) →
      unescape (Piece.join pieces) = pieces.map Piece.char := by
  constructor
  · intro t
    obtain ⟨pieces, rfl, hsound⟩ := Piece.exists_areSound t
    exact ⟨pieces, rfl, hsound.isSound, fun _ _ _ _ hjoin hbody => hsound.occurrence hjoin hbody,
      hsound.unescape_join⟩
  · intro pieces hescape
    exact (Piece.areSound_of_isEscape hescape).unescape_join

/-- What is left after unescaping may look like an entity; it is not read again. -/
theorem unescape_exact_four_pieces :
    let pieces : List Piece :=
      [.entity "#x0026".toList '&', .plain 'l', .plain 't', .entity "#+59".toList ';']
    (∀ piece ∈ pieces, piece.IsEscape) ∧ Piece.join pieces = "&#x0026;lt&#+59;".toList ∧
      unescape "&#x0026;lt&#+59;".toList = "&lt;".toList := by
  intro pieces
  have hescape : ∀ piece ∈ pieces, piece.IsEscape := by
    intro piece hpiece
    simp only [pieces, List.mem_cons, List.not_mem_nil, or_false] at hpiece
    rcases hpiece with rfl | rfl | rfl | rfl
    · exact entity?_eq_some_iff.mp (by decide)
    · exact (by decide : 'l' ≠ '&')
    · exact (by decide : 't' ≠ '&')
    · exact entity?_eq_some_iff.mp (by decide)
  exact ⟨hescape, rfl, unescape_exact.2 pieces hescape⟩

end DiceBot.Text
