import DiceBot.Text.Encoding

/-!
# Reading back the bytes of texts

Exactly the bytes of a text are read as that text, and the bytes below 128 are those of characters
of their own, so a line can be cut out of the bytes of a text.
-/

namespace DiceBot.Text

/-- The bytes of a text are those that a string of its characters is stored as. -/
theorem toByteArray_ofList (t : Text) : (String.ofList t).toByteArray = ⟨t.bytes.toArray⟩ := by
  rw [String.toByteArray_ofList, List.utf8Encode]
  exact ByteArray.ext List.data_toByteArray

/-- Exactly the bytes of a text are read as that text. -/
theorem ofBytes?_eq_some_iff {bs : List UInt8} {t : Text} :
    ofBytes? bs = some t ↔ bs = t.bytes := by
  have hbytes : (⟨bs.toArray⟩ : ByteArray) = ⟨t.bytes.toArray⟩ ↔ bs = t.bytes := by simp
  rw [ofBytes?, String.fromUTF8?, ← hbytes, ← toByteArray_ofList]
  constructor
  · intro h
    split at h
    · next hvalid =>
      rw [Option.map_some, Option.some.injEq] at h
      rw [← h, String.ofList_toList]
      rfl
    · cases h
  · intro h
    have hvalid : ByteArray.IsValidUTF8 ⟨bs.toArray⟩ := h ▸ (String.ofList t).isValidUTF8
    have hstring : String.fromUTF8 ⟨bs.toArray⟩ hvalid = String.ofList t :=
      String.toByteArray_inj.mp h
    rw [dif_pos hvalid, hstring, Option.map_some, String.toList_ofList]

/-- A text is read back from its bytes. -/
theorem ofBytes?_bytes (t : Text) : ofBytes? t.bytes = some t := ofBytes?_eq_some_iff.mpr rfl

/-- Different texts have different bytes. -/
theorem bytes_injective {t u : Text} (h : t.bytes = u.bytes) : t = u :=
  Option.some.inj ((ofBytes?_bytes t).symm.trans (ofBytes?_eq_some_iff.mpr h))

/-- Bytes that are not those of any text are not read. -/
theorem ofBytes?_eq_none {bs : List UInt8} (h : ∀ t : Text, bs ≠ t.bytes) : ofBytes? bs = none :=
  Option.eq_none_iff_forall_ne_some.mpr fun t ht => h t (ofBytes?_eq_some_iff.mp ht)

/-- A byte below 128 is that of a character of its own. -/
theorem toNat_eq_of_mem_utf8EncodeChar {c : Char} {b : UInt8} (hb : b ∈ String.utf8EncodeChar c)
    (hsmall : b.toNat < 128) : c.toNat = b.toNat := by
  rw [String.utf8EncodeChar] at hb
  split at hb
  · next hc =>
    rw [List.mem_singleton.mp hb, UInt8.toNat_ofNat', Nat.mod_eq_of_lt (by omega)]
    rfl
  · exfalso
    -- the first byte of several is marked with 192 or more, the others with 128
    split at hb
    · simp only [List.mem_cons, List.not_mem_nil, or_false] at hb
      rcases hb with rfl | rfl <;> simp only [UInt8.toNat_ofNat'] at hsmall <;> omega
    · split at hb
      · simp only [List.mem_cons, List.not_mem_nil, or_false] at hb
        rcases hb with rfl | rfl | rfl <;> simp only [UInt8.toNat_ofNat'] at hsmall <;> omega
      · simp only [List.mem_cons, List.not_mem_nil, or_false] at hb
        rcases hb with rfl | rfl | rfl | rfl <;> simp only [UInt8.toNat_ofNat'] at hsmall <;> omega

/-- The greatest bytes are those of no character. -/
theorem toNat_lt_of_mem_utf8EncodeChar {c : Char} {b : UInt8}
    (hb : b ∈ String.utf8EncodeChar c) : b.toNat < 248 := by
  rw [String.utf8EncodeChar] at hb
  split at hb
  · next hc =>
    rw [List.mem_singleton.mp hb, UInt8.toNat_ofNat', Nat.mod_eq_of_lt (by omega)]
    omega
  · split at hb
    · simp only [List.mem_cons, List.not_mem_nil, or_false] at hb
      rcases hb with rfl | rfl <;> simp only [UInt8.toNat_ofNat'] <;> omega
    · split at hb
      · simp only [List.mem_cons, List.not_mem_nil, or_false] at hb
        rcases hb with rfl | rfl | rfl <;> simp only [UInt8.toNat_ofNat'] <;> omega
      · simp only [List.mem_cons, List.not_mem_nil, or_false] at hb
        rcases hb with rfl | rfl | rfl | rfl <;> simp only [UInt8.toNat_ofNat'] <;> omega

/-- Bytes with one of the greatest among them are those of no text. -/
theorem ne_bytes_of_mem {bs : List UInt8} {b : UInt8} (hb : b ∈ bs) (hlarge : 248 ≤ b.toNat)
    (t : Text) : bs ≠ t.bytes := by
  rintro rfl
  obtain ⟨c, -, hc⟩ := List.mem_flatMap.mp hb
  exact absurd (toNat_lt_of_mem_utf8EncodeChar hc) (Nat.not_lt.mpr hlarge)

/-- A line feed among the bytes of a text is one of its characters. -/
theorem newline_mem_of_mem_bytes {t : Text} (h : 10 ∈ t.bytes) : '\n' ∈ t := by
  obtain ⟨c, hc, hb⟩ := List.mem_flatMap.mp h
  have hnewline : c = '\n' := Char.toNat_inj.mp (toNat_eq_of_mem_utf8EncodeChar hb (by decide))
  rwa [← hnewline]

end DiceBot.Text
