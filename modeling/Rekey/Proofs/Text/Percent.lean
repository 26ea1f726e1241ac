import Rekey.Text.Percent

/-!
# Escapes are read back

The escapes of a character are read as its bytes, and so is a character that stands as it is. A text
in which each character is written in one of the two ways therefore says which text was written.
-/

namespace Rekey

/-! ## The bytes of a character -/

theorem toList_eq_data (bytes : ByteArray) : bytes.toList = bytes.data.toList := by
  have hloop : ∀ n read, ByteArray.toList.loop bytes n read =
      read.reverse ++ bytes.data.toList.drop n := by
    intro n read
    fun_induction ByteArray.toList.loop bytes n read with
    | case1 n read hn ih =>
      have hdata : n < bytes.data.toList.length := hn
      have hget : bytes.get! n = bytes.data.toList[n] := by
        show bytes.data[n]! = _
        rw [getElem!_pos bytes.data n hn, Array.getElem_toList]
      rw [ih, List.reverse_cons, List.drop_eq_getElem_cons hdata, hget, List.append_assoc,
        List.singleton_append]
    | case2 n read hn =>
      have hend : bytes.data.toList.length ≤ n := Nat.le_of_not_lt hn
      rw [List.drop_eq_nil_of_le hend, List.append_nil]
  rw [ByteArray.toList, hloop, List.reverse_nil, List.nil_append, List.drop_zero]

theorem toList_singleton (c : Char) :
    (String.singleton c).toUTF8.toList = String.utf8EncodeChar c := by
  rw [toList_eq_data, String.toUTF8_eq_toByteArray, String.toByteArray_singleton,
    List.utf8Encode_singleton, List.data_toByteArray]

/-- Texts of the same bytes are the same. -/
theorem eq_of_flatMap_utf8 {cs ds : List Char}
    (h : cs.flatMap String.utf8EncodeChar = ds.flatMap String.utf8EncodeChar) : cs = ds := by
  have hbytes : cs.utf8Encode = ds.utf8Encode := congrArg List.toByteArray h
  rw [← String.toByteArray_ofList, ← String.toByteArray_ofList, String.toByteArray_inj] at hbytes
  exact String.ofList_injective hbytes

/-! ## Escapes -/

theorem percentChar_eq (c : Char) :
    percentChar c = (String.utf8EncodeChar c).flatMap percentByte := by
  rw [percentChar, toList_singleton]

theorem percent_mem_percentChar (c : Char) : '%' ∈ percentChar c := by
  obtain ⟨b, rest, hbytes⟩ := List.exists_cons_of_ne_nil (String.utf8EncodeChar_ne_nil (c := c))
  rw [percentChar_eq, hbytes]
  simp [percentByte]

/-- An escape is written in percent signs, digits and letters. -/
theorem mem_percentChar {c x : Char} (h : x ∈ percentChar c) : x = '%' ∨ x.isAlphanum = true := by
  have hdigit : ∀ n < 16,
      (if n < 10 then Char.ofNat (0x30 + n) else Char.ofNat (0x37 + n)).isAlphanum = true := by
    decide
  rw [percentChar, List.mem_flatMap] at h
  obtain ⟨b, -, hb⟩ := h
  have hbound := b.toNat_lt
  have hhigh := hdigit (b.toNat / 16) (by omega)
  have hlow := hdigit (b.toNat % 16) (by omega)
  simp only [percentByte, List.mem_cons, List.not_mem_nil, or_false] at hb
  rcases hb with rfl | rfl | rfl
  · exact .inl rfl
  · exact .inr hhigh
  · exact .inr hlow

theorem slash_not_mem_percentChar (c : Char) : '/' ∉ percentChar c := by
  intro h
  rcases mem_percentChar h with hpercent | hdigit
  · exact absurd hpercent (by decide)
  · exact absurd hdigit (by decide)

namespace Text

theorem hexDigit?_digit {n : Nat} (h : n < 16) :
    hexDigit? (if n < 10 then Char.ofNat (0x30 + n) else Char.ofNat (0x37 + n)) = some n := by
  have hall : ∀ n < 16,
      hexDigit? (if n < 10 then Char.ofNat (0x30 + n) else Char.ofNat (0x37 + n)) = some n := by
    decide
  exact hall n h

/-- The escape of a byte is read as the byte. -/
theorem percentDecode_percentByte (b : UInt8) (rest : List Char) :
    percentDecode (percentByte b ++ rest) = b :: percentDecode rest := by
  have hbound := b.toNat_lt
  have hhigh := hexDigit?_digit (n := b.toNat / 16) (by omega)
  have hlow := hexDigit?_digit (n := b.toNat % 16) (by omega)
  have hvalue : UInt8.ofNat (b.toNat / 16 * 16 + b.toNat % 16) = b := by
    rw [Nat.div_add_mod']
    exact UInt8.ofNat_toNat
  simp only [percentByte, List.cons_append, List.nil_append, percentDecode, hexByte?, hhigh, hlow,
    hvalue]

/-- The escapes of a character are read as its bytes. -/
theorem percentDecode_percentChar (c : Char) (rest : List Char) :
    percentDecode (percentChar c ++ rest) = String.utf8EncodeChar c ++ percentDecode rest := by
  rw [percentChar_eq]
  induction String.utf8EncodeChar c with
  | nil => rfl
  | cons b bs ih =>
    rw [List.flatMap_cons, List.append_assoc, percentDecode_percentByte, ih, List.cons_append]

/-- A character that is no percent sign stands for its bytes. -/
theorem percentDecode_cons {c : Char} (h : c ≠ '%') (rest : List Char) :
    percentDecode (c :: rest) = String.utf8EncodeChar c ++ percentDecode rest := by
  rw [← toList_singleton, percentDecode]
  rintro a b r rfl
  exact absurd rfl h

/-- A text is read back whichever of its characters are written as escapes, if all percent signs
are. -/
theorem percentDecode_flatMap {write : Char → List Char}
    (hwrite : ∀ c, write c = percentChar c ∨ write c = [c] ∧ c ≠ '%') (cs : List Char) :
    percentDecode (cs.flatMap write) = cs.flatMap String.utf8EncodeChar := by
  induction cs with
  | nil => rfl
  | cons c cs ih =>
    rw [List.flatMap_cons, List.flatMap_cons, ← ih]
    rcases hwrite c with hescaped | ⟨hplain, hpercent⟩
    · rw [hescaped, percentDecode_percentChar]
    · rw [hplain, List.singleton_append, percentDecode_cons hpercent]

end Text

end Rekey
