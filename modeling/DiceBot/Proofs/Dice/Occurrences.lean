import Mathlib.Algebra.Order.BigOperators.Group.List
import Mathlib.Algebra.Order.Group.Nat
import DiceBot.Proofs.Dice.Budget
import DiceBot.Proofs.Text.Digits
import DiceBot.Proofs.Text.Words

/-!
# What the budget adds up

In any text, whether it can be read or not, the dice budget finds the runs of decimal digits that a
letter d and another digit follow, from left to right, each search beginning behind the digit that
ended the one before. What it makes of them is exact although it stops counting at a ceiling: a
bound lies below the ceiling, so neither a run whose number is cut off nor a sum that is can come
out on the wrong side of it.
-/

namespace DiceBot

namespace Budget

open Text (isDecimalDigit)

/-- Whether a run of decimal digits of any script, with a letter d and another decimal digit behind
it, stands in a text between `lead` and `rest`. -/
structure Occurs (t lead run rest : Text) : Prop where
  /-- The run stands there, with the letter and the digit behind it. -/
  exists_eq : ∃ c, isDecimalDigit c = true ∧ t = lead ++ (run ++ 'd' :: c :: rest)
  /-- There is a digit in the run. -/
  ne_nil : run ≠ []
  /-- There is nothing but digits in the run. -/
  digits : ∀ b ∈ run, isDecimalDigit b = true
  /-- The run is as long as it can be. -/
  maximal : ∀ b ∈ lead.getLast?, isDecimalDigit b = false

/-- The runs that are found in a text: the one that stands leftmost, and then those that are found
behind the digit that follows it. -/
inductive Finds : Text → List Text → Prop
  | nothing {t : Text} (hnone : ∀ lead run rest, ¬Occurs t lead run rest) : Finds t []
  | next {t lead run rest : Text} {runs : List Text} (hoccurs : Occurs t lead run rest)
      (hleftmost : ∀ lead' run' rest', Occurs t lead' run' rest' → lead.length ≤ lead'.length)
      (hrest : Finds rest runs) : Finds t (run :: runs)

/-- The digits before a letter d are told from what is behind them. -/
theorem run_append_inj {digits run t rest : Text} {c : Char}
    (hdigits : ∀ b ∈ digits, isDecimalDigit b = true)
    (ht : ∀ b ∈ t.head?, isDecimalDigit b = false) (hrun : ∀ b ∈ run, isDecimalDigit b = true)
    (h : digits ++ t = run ++ 'd' :: c :: rest) : digits = run ∧ t = 'd' :: c :: rest := by
  refine Text.append_inj_of_head hdigits hrun ht ?_ h
  rintro b ⟨⟩
  exact isDecimalDigit_d

namespace Occurs

variable {piece t lead lead' run run' rest rest' : Text}

/-- The run and what follows it are fixed by the place where it stands. -/
theorem unique (h : Occurs t lead run rest) (h' : Occurs t lead' run' rest')
    (hlength : lead.length = lead'.length) : run = run' ∧ rest = rest' := by
  obtain ⟨c, hc, rfl⟩ := h.exists_eq
  obtain ⟨c', hc', ht⟩ := h'.exists_eq
  have hd : ∀ b ∈ ('d' :: c :: rest).head?, isDecimalDigit b = false := by
    rintro b ⟨⟩
    exact isDecimalDigit_d
  obtain ⟨rfl, hrest⟩ := run_append_inj h.digits hd h'.digits (List.append_inj_right ht hlength)
  exact ⟨rfl, (List.cons.inj (List.cons.inj hrest).2).2⟩

/-- A run that stands first begins with a digit. -/
theorem exists_head (h : Occurs t [] run rest) : ∃ b ∈ t.head?, isDecimalDigit b = true := by
  obtain ⟨c, hc, rfl⟩ := h.exists_eq
  obtain ⟨b, run, rfl⟩ := List.exists_cons_of_ne_nil h.ne_nil
  exact ⟨b, rfl, h.digits b List.mem_cons_self⟩

/-- A run stays a run behind a piece of text, unless the piece lengthens it. -/
theorem append (h : Occurs t lead run rest)
    (hpiece : lead = [] → ∀ b ∈ piece.getLast?, isDecimalDigit b = false) :
    Occurs (piece ++ t) (piece ++ lead) run rest := by
  obtain ⟨c, hc, rfl⟩ := h.exists_eq
  refine ⟨⟨c, hc, (List.append_assoc _ _ _).symm⟩, h.ne_nil, h.digits, ?_⟩
  intro b hb
  rw [List.getLast?_append] at hb
  cases hlead : lead.getLast? with
  | none =>
    rw [hlead] at hb
    exact hpiece (List.getLast?_eq_none_iff.mp hlead) b hb
  | some a =>
    rw [hlead] at hb
    exact h.maximal b (by rwa [hlead])

/-- A run that begins behind a piece of text is a run without it. -/
theorem of_append (h : Occurs (piece ++ t) lead run rest) (hlength : piece.length ≤ lead.length) :
    ∃ lead', lead = piece ++ lead' ∧ Occurs t lead' run rest := by
  obtain ⟨c, hc, ht⟩ := h.exists_eq
  have hprefix : lead <+: piece ++ t := ⟨_, ht.symm⟩
  obtain ⟨lead', rfl⟩ :=
    List.prefix_of_prefix_length_le (List.prefix_append piece t) hprefix hlength
  rw [List.append_assoc, List.append_cancel_left_eq] at ht
  refine ⟨lead', rfl, ⟨c, hc, ht⟩, h.ne_nil, h.digits, ?_⟩
  intro b hb
  apply h.maximal
  rw [List.getLast?_append, hb]
  rfl

end Occurs

/-- What is found in a text is fixed by it. -/
theorem Finds.unique {t : Text} {runs runs' : List Text} (h : Finds t runs) (h' : Finds t runs') :
    runs = runs' := by
  induction h generalizing runs' with
  | nothing hnone =>
    cases h' with
    | nothing hnone' => rfl
    | next hoccurs' hleftmost' hrest' => exact absurd hoccurs' (hnone _ _ _)
  | next hoccurs hleftmost hrest ih =>
    cases h' with
    | nothing hnone' => exact absurd hoccurs (hnone' _ _ _)
    | next hoccurs' hleftmost' hrest' =>
      have hlength := Nat.le_antisymm (hleftmost _ _ _ hoccurs') (hleftmost' _ _ _ hoccurs)
      obtain ⟨rfl, rfl⟩ := hoccurs.unique hoccurs' hlength
      rw [ih hrest']

namespace Finds

variable {t : Text} {runs : List Text}

theorem nil : Finds [] [] := by
  refine .nothing fun lead run rest h => ?_
  obtain ⟨c, -, hc⟩ := h.exists_eq
  simp at hc

/-- The same is found behind a piece of text in which no run begins and which lengthens none. -/
theorem append {piece : Text} (h : Finds t runs)
    (hbegins : ∀ lead run rest, Occurs (piece ++ t) lead run rest → piece.length ≤ lead.length)
    (hlengthens : ∀ run rest, Occurs t [] run rest →
      ∀ b ∈ piece.getLast?, isDecimalDigit b = false) : Finds (piece ++ t) runs := by
  cases h with
  | nothing hnone =>
    refine .nothing fun lead run rest hoccurs => ?_
    obtain ⟨lead', -, hoccurs'⟩ := hoccurs.of_append (hbegins lead run rest hoccurs)
    exact hnone _ _ _ hoccurs'
  | next hoccurs hleftmost hrest =>
    refine .next (hoccurs.append ?_) ?_ hrest
    · rintro rfl
      exact hlengthens _ _ hoccurs
    · intro lead' run' rest' hoccurs'
      obtain ⟨lead'', rfl, hoccurs''⟩ := hoccurs'.of_append (hbegins _ _ _ hoccurs')
      rw [List.length_append, List.length_append]
      exact Nat.add_le_add_left (hleftmost _ _ _ hoccurs'') _

/-- No run begins with a character that is no digit. -/
theorem cons {c : Char} (h : Finds t runs) (hc : isDecimalDigit c = false) :
    Finds (c :: t) runs := by
  refine @append t runs [c] h ?_ ?_
  · intro lead run rest hoccurs
    cases lead with
    | nil =>
      obtain ⟨b, ⟨⟩, hb⟩ := hoccurs.exists_head
      exact absurd (hc.symm.trans hb) Bool.false_ne_true
    | cons b lead => exact Nat.succ_le_succ (Nat.zero_le _)
  · rintro run rest - b ⟨⟩
    exact hc

/-- Digits are no run if no letter d with a digit behind it follows them. -/
theorem digits_append {digits : Text} (h : Finds t runs)
    (hdigits : ∀ b ∈ digits, isDecimalDigit b = true)
    (ht : ∀ b ∈ t.head?, isDecimalDigit b = false)
    (hletter : ∀ c rest, t = 'd' :: c :: rest → isDecimalDigit c = false) :
    Finds (digits ++ t) runs := by
  refine h.append ?_ ?_
  · intro lead run rest hoccurs
    by_contra hlength
    obtain ⟨c, hc, heq⟩ := hoccurs.exists_eq
    have hprefix : lead <+: digits ++ t := ⟨_, heq.symm⟩
    obtain ⟨digits', rfl⟩ :=
      List.prefix_of_prefix_length_le hprefix (List.prefix_append digits t) (by omega)
    -- A run that is as long as it can be begins with the first digit.
    have hlead : lead = [] := by
      rcases List.eq_nil_or_concat lead with hnil | ⟨front, b, rfl⟩
      · exact hnil
      · have hb := hoccurs.maximal b (by simp)
        exact absurd (hb.symm.trans (hdigits b (by simp))) Bool.false_ne_true
    subst hlead
    obtain ⟨-, ht'⟩ := run_append_inj hdigits ht hoccurs.digits heq
    exact absurd ((hletter c rest ht').symm.trans hc) Bool.false_ne_true
  · intro run rest hoccurs
    obtain ⟨b, hb, hdigit⟩ := hoccurs.exists_head
    exact absurd ((ht b hb).symm.trans hdigit) Bool.false_ne_true

/-- Digits and a letter d are no run if no digit follows them. -/
theorem letter_append {digits : Text} (h : Finds t runs)
    (hdigits : ∀ b ∈ digits, isDecimalDigit b = true)
    (ht : ∀ b ∈ t.head?, isDecimalDigit b = false) : Finds (digits ++ 'd' :: t) runs := by
  refine (h.cons isDecimalDigit_d).digits_append hdigits ?_ ?_
  · rintro b ⟨⟩
    exact isDecimalDigit_d
  · intro c rest hrest
    obtain ⟨-, rfl⟩ := List.cons.inj hrest
    exact ht c rfl

/-- Digits in front of a letter d and another digit are the first run. -/
theorem run_append {digits : Text} {c : Char} (h : Finds t runs) (hne : digits ≠ [])
    (hdigits : ∀ b ∈ digits, isDecimalDigit b = true) (hc : isDecimalDigit c = true) :
    Finds (digits ++ 'd' :: c :: t) (digits :: runs) := by
  have hoccurs : Occurs (digits ++ 'd' :: c :: t) [] digits t :=
    ⟨⟨c, hc, rfl⟩, hne, hdigits, by simp⟩
  refine .next hoccurs ?_ h
  intro lead run rest _
  exact Nat.zero_le _

end Finds

/-- What a search has read of a text since it was last idle. -/
def Search.pending : Search → Text
  | idle => []
  | run digits => digits.reverse
  | lettered digits => digits.reverse ++ ['d']

/-- Whether a search remembers digits, and at least one, unless it is idle. -/
def Search.IsSound : Search → Prop
  | idle => True
  | run digits => digits ≠ [] ∧ ∀ b ∈ digits.reverse, isDecimalDigit b = true
  | lettered digits => digits ≠ [] ∧ ∀ b ∈ digits.reverse, isDecimalDigit b = true

/-- A search finds the runs of the text that it has begun to read. The induction is on what it has
not read yet; what it has read is `pending`. -/
theorem finds_countsFrom (t : Text) (search : Search) (hsound : search.IsSound) :
    Finds (search.pending ++ t) (countsFrom search t) := by
  induction t generalizing search with
  | nil =>
    cases search with
    | idle => exact .nil
    | run digits => exact Finds.nil.digits_append hsound.2 (by simp) (by simp)
    | lettered digits =>
      rw [List.append_nil]
      exact Finds.nil.letter_append hsound.2 (by simp)
  | cons c t ih =>
    cases search with
    | idle =>
      rw [countsFrom]
      split
      · next hc => exact ih (.run [c]) ⟨by simp, by simpa using hc⟩
      · next hc => exact (ih .idle trivial).cons (by simpa using hc)
    | run digits =>
      obtain ⟨hne, hdigits⟩ := hsound
      rw [countsFrom]
      split
      · next hc =>
        have hrest := ih (.run (c :: digits))
          ⟨by simp, by simpa [or_imp, forall_and, hc] using hdigits⟩
        simpa [Search.pending] using hrest
      · next hc =>
        have hc : isDecimalDigit c = false := by simpa using hc
        split
        · next hletter =>
          have hrest := ih (.lettered digits) ⟨hne, hdigits⟩
          simpa [Search.pending, hletter] using hrest
        · next hletter =>
          refine ((ih .idle trivial).cons hc).digits_append hdigits (by simpa using hc) ?_
          intro b rest hb
          exact absurd (List.cons.inj hb).1 hletter
    | lettered digits =>
      obtain ⟨hne, hdigits⟩ := hsound
      rw [countsFrom, Search.pending, List.append_assoc, List.singleton_append]
      split
      · next hc => exact (ih .idle trivial).run_append (by simpa using hne) hdigits hc
      · next hc =>
        have hc : isDecimalDigit c = false := by simpa using hc
        exact ((ih .idle trivial).cons hc).letter_append hdigits (by simpa using hc)

/-- The runs that the budget reads are those that are found. -/
theorem finds_iff {t : Text} {runs : List Text} : Finds t runs ↔ runs = counts t := by
  have hcounts : Finds t (counts t) := finds_countsFrom t .idle trivial
  constructor
  · intro h
    exact h.unique hcounts
  · rintro rfl
    exact hcounts

theorem Finds.ne_nil {t : Text} {runs : List Text} (h : Finds t runs) :
    ∀ run ∈ runs, run ≠ [] := by
  induction h with
  | nothing hnone => simp
  | next hoccurs hleftmost hrest ih => exact List.forall_mem_cons.mpr ⟨hoccurs.ne_nil, ih⟩

/-- The value of a run of ASCII digits is its number, cut off at the ceiling. -/
theorem countValue_of_ascii {run : Text} (hne : run ≠ []) (h : ∀ c ∈ run, c.isDigit = true) :
    countValue run = min (Text.decimalValue run) ceiling := by
  rw [countValue, Text.natural?_eq_some_iff.mpr (Text.isNumeral_decimalValue hne h)]

/-- The value of a run with a digit of another script is the ceiling. -/
theorem countValue_of_other {run : Text} {c : Char} (hmem : c ∈ run) (hc : c.isDigit = false) :
    countValue run = ceiling := by
  have hnone : Text.natural? run = none := by
    rw [Option.eq_none_iff_forall_ne_some]
    intro n hn
    exact Bool.false_ne_true (hc.symm.trans ((Text.natural?_eq_some_iff.mp hn).isDigit c hmem))
  rw [countValue, hnone]

/-- The total exceeds a bound below the ceiling exactly if a run has a digit of another script or
the sum of all numbers exceeds it. -/
theorem lt_total_iff {m : Nat} (hm : m < ceiling) (t : Text) :
    m < total t ↔ (∃ run ∈ counts t, ∃ c ∈ run, c.isDigit = false) ∨
      m < ((counts t).map Text.decimalValue).sum := by
  rw [total_eq]
  by_cases hother : ∃ run ∈ counts t, ∃ c ∈ run, c.isDigit = false
  · obtain ⟨run, hrun, c, hmem, hc⟩ := hother
    have hle : ceiling ≤ ((counts t).map countValue).sum := by
      rw [← countValue_of_other hmem hc]
      exact List.le_sum_of_mem (List.mem_map_of_mem hrun)
    rw [Nat.min_eq_right hle]
    exact iff_of_true hm (Or.inl ⟨run, hrun, c, hmem, hc⟩)
  · have hvalues : (counts t).map countValue =
        ((counts t).map Text.decimalValue).map (min · ceiling) := by
      rw [List.map_map]
      apply List.map_congr_left
      intro run hrun
      apply countValue_of_ascii ((finds_iff.mpr rfl).ne_nil run hrun)
      intro c hmem
      rw [← Bool.not_eq_false]
      exact fun hc => hother ⟨run, hrun, c, hmem, hc⟩
    rw [hvalues, min_sum_cutOff]
    simp only [hother, false_or]
    omega

/-- For every text and every limit: what the budget reads are the runs of decimal digits with a
letter d and another digit behind them, each the leftmost one behind what was found before it. It
turns the text down exactly if a digit of another script is in one of them or the sum of their
numbers exceeds the limit, however long and however many they are. -/
theorem refused_iff_sum_exceeds (maxDice : UInt32) (t : Text) :
    (∀ runs, Finds t runs ↔ runs = counts t) ∧
      (allows maxDice t = false ↔
        (∃ run ∈ counts t, ∃ c ∈ run, c.isDigit = false) ∨
          maxDice.toNat < ((counts t).map Text.decimalValue).sum) := by
  have hmax : maxDice.toNat < ceiling :=
    Nat.lt_trans maxDice.toNat_lt (by decide)
  refine ⟨fun runs => finds_iff, ?_⟩
  rw [allows, ← lt_total_iff hmax, ← Nat.not_le, ← Bool.not_eq_true, Nat.ble_eq]

/-- The digit behind a letter d belongs to no other run. -/
example : counts "1d23d4 x d6 05d٣".toList = [['1'], ['3'], ['0', '5']] := by decide +kernel

end Budget

end DiceBot
