import Rekey.Text.Charset

/-!
# UTF-8 is read back

The bytes of a character are read as the character, whatever follows them, so the bytes of a text
are read as the text: nothing in it is replaced.
-/

namespace Rekey.Text

variable {needed value k v : Nat} {b low high : UInt8}

/-! ## One byte -/

theorem utf8Chars_ascii (hb : b.toNat < 0x80) (rest : List UInt8) :
    utf8Chars 0 0 0x80 0xBF (b :: rest) =
      Char.ofNat b.toNat :: utf8Chars 0 0 0x80 0xBF rest := by
  have hlow : b < 0x80 := UInt8.lt_iff_toNat_lt.mpr hb
  simp [utf8Chars, hlow]

/-- A first byte says how many bytes follow it, and the bounds of the next. -/
theorem utf8Chars_head {n : Nat} (hb : 0x80 ≤ b.toNat)
    (hhead : utf8Head b = some (n, low, high)) (rest : List UInt8) :
    utf8Chars 0 0 0x80 0xBF (b :: rest) =
      utf8Chars n (b.toNat % (64 >>> n)) low high rest := by
  have hhigh : ¬ b < 0x80 := UInt8.not_lt.mpr (UInt8.le_iff_toNat_le.mpr hb)
  simp [utf8Chars, hhigh, hhead]

/-- A byte between its bounds adds six bits to the value. -/
theorem utf8Chars_inner (hk : k < 64) (hlow : low.toNat ≤ k + 128) (hhigh : k + 128 ≤ high.toNat)
    (rest : List UInt8) :
    utf8Chars (needed + 2) value low high (UInt8.ofNat (k + 128) :: rest) =
      utf8Chars (needed + 1) (value * 64 + k) 0x80 0xBF rest := by
  have hbyte := UInt8.toNat_ofNat_of_lt' (show k + 128 < 256 by omega)
  have hbits : (k + 128) % 64 = k := by omega
  generalize UInt8.ofNat (k + 128) = b at hbyte ⊢
  simp [utf8Chars, UInt8.le_iff_toNat_le, hbyte, hlow, hhigh, hbits]

/-- The last byte of a character completes its value. -/
theorem utf8Chars_last (hk : k < 64) (hlow : low.toNat ≤ k + 128) (hhigh : k + 128 ≤ high.toNat)
    (rest : List UInt8) :
    utf8Chars 1 value low high (UInt8.ofNat (k + 128) :: rest) =
      Char.ofNat (value * 64 + k) :: utf8Chars 0 0 0x80 0xBF rest := by
  have hbyte := UInt8.toNat_ofNat_of_lt' (show k + 128 < 256 by omega)
  have hbits : (k + 128) % 64 = k := by omega
  generalize UInt8.ofNat (k + 128) = b at hbyte ⊢
  simp [utf8Chars, UInt8.le_iff_toNat_le, hbyte, hlow, hhigh, hbits]

/-- Where any byte may continue a character, every six bits may. -/
theorem toNat_low_le : (0x80 : UInt8).toNat ≤ k + 128 :=
  Nat.le_add_left 128 k

theorem le_toNat_high (hk : k < 64) : k + 128 ≤ (0xBF : UInt8).toNat :=
  Nat.add_le_add_right (Nat.le_of_lt_succ hk) 128

/-! ## One character -/

/-- The first byte of a character of two bytes. -/
theorem utf8Head_two {n : Nat} (hn : n < 32) (hmin : 2 ≤ n) :
    utf8Head (UInt8.ofNat (n + 192)) = some (1, 0x80, 0xBF) := by
  have hall : ∀ n < 32, 2 ≤ n → utf8Head (UInt8.ofNat (n + 192)) = some (1, 0x80, 0xBF) := by
    decide
  exact hall n hn hmin

/-- The first byte of a character of three bytes. The bounds of the second leave out what two bytes
write and what is no character. -/
theorem utf8Head_three {n : Nat} (hn : n < 16) :
    utf8Head (UInt8.ofNat (n + 224)) =
      some (2, if n = 0 then 0xA0 else 0x80, if n = 13 then 0x9F else 0xBF) := by
  have hall : ∀ n < 16, utf8Head (UInt8.ofNat (n + 224)) =
      some (2, if n = 0 then 0xA0 else 0x80, if n = 13 then 0x9F else 0xBF) := by
    decide
  exact hall n hn

/-- The first byte of a character of four bytes. -/
theorem utf8Head_four {n : Nat} (hn : n < 5) :
    utf8Head (UInt8.ofNat (n + 240)) =
      some (3, if n = 0 then 0x90 else 0x80, if n = 4 then 0x8F else 0xBF) := by
  have hall : ∀ n < 5, utf8Head (UInt8.ofNat (n + 240)) =
      some (3, if n = 0 then 0x90 else 0x80, if n = 4 then 0x8F else 0xBF) := by
    decide
  exact hall n hn

theorem utf8Chars_two (hmin : 0x7F < v) (hmax : v ≤ 0x7FF) (rest : List UInt8) :
    utf8Chars 0 0 0x80 0xBF
        (UInt8.ofNat (v / 64 % 32 + 192) :: UInt8.ofNat (v % 64 + 128) :: rest) =
      Char.ofNat v :: utf8Chars 0 0 0x80 0xBF rest := by
  have hfirst := UInt8.toNat_ofNat_of_lt' (show v / 64 % 32 + 192 < 256 by omega)
  have hhead := utf8Head_two (n := v / 64 % 32) (by omega) (by omega)
  have hlast : v % 64 < 64 := by omega
  have hvalue : (v / 64 % 32 + 192) % (64 >>> 1) * 64 + v % 64 = v := by
    rw [show 64 >>> 1 = 32 from rfl]
    omega
  rw [utf8Chars_head (by omega) hhead, utf8Chars_last hlast toNat_low_le (le_toNat_high hlast),
    hfirst, hvalue]

theorem utf8Chars_three (hmin : 0x7FF < v) (hmax : v ≤ 0xFFFF)
    (hpair : v < 0xD800 ∨ 0xDFFF < v) (rest : List UInt8) :
    utf8Chars 0 0 0x80 0xBF
        (UInt8.ofNat (v / 4096 % 16 + 224) :: UInt8.ofNat (v / 64 % 64 + 128) ::
          UInt8.ofNat (v % 64 + 128) :: rest) =
      Char.ofNat v :: utf8Chars 0 0 0x80 0xBF rest := by
  have hfirst := UInt8.toNat_ofNat_of_lt' (show v / 4096 % 16 + 224 < 256 by omega)
  have hhead := utf8Head_three (n := v / 4096 % 16) (by omega)
  have hlow : (if v / 4096 % 16 = 0 then (0xA0 : UInt8) else 0x80).toNat ≤ v / 64 % 64 + 128 := by
    split
    · show 0xA0 ≤ _
      omega
    · exact toNat_low_le
  have hhigh : v / 64 % 64 + 128 ≤
      (if v / 4096 % 16 = 13 then (0x9F : UInt8) else 0xBF).toNat := by
    split
    · show _ ≤ 0x9F
      omega
    · exact le_toNat_high (by omega)
  have hlast : v % 64 < 64 := by omega
  have hvalue : ((v / 4096 % 16 + 224) % (64 >>> 2) * 64 + v / 64 % 64) * 64 + v % 64 = v := by
    rw [show 64 >>> 2 = 16 from rfl]
    omega
  rw [utf8Chars_head (by omega) hhead, utf8Chars_inner (by omega) hlow hhigh,
    utf8Chars_last hlast toNat_low_le (le_toNat_high hlast), hfirst, hvalue]

theorem utf8Chars_four (hmin : 0xFFFF < v) (hmax : v < 0x110000) (rest : List UInt8) :
    utf8Chars 0 0 0x80 0xBF
        (UInt8.ofNat (v / 262144 % 8 + 240) :: UInt8.ofNat (v / 4096 % 64 + 128) ::
          UInt8.ofNat (v / 64 % 64 + 128) :: UInt8.ofNat (v % 64 + 128) :: rest) =
      Char.ofNat v :: utf8Chars 0 0 0x80 0xBF rest := by
  have hfirst := UInt8.toNat_ofNat_of_lt' (show v / 262144 % 8 + 240 < 256 by omega)
  have hhead := utf8Head_four (n := v / 262144 % 8) (by omega)
  have hlow : (if v / 262144 % 8 = 0 then (0x90 : UInt8) else 0x80).toNat ≤
      v / 4096 % 64 + 128 := by
    split
    · show 0x90 ≤ _
      omega
    · exact toNat_low_le
  have hhigh : v / 4096 % 64 + 128 ≤
      (if v / 262144 % 8 = 4 then (0x8F : UInt8) else 0xBF).toNat := by
    split
    · show _ ≤ 0x8F
      omega
    · exact le_toNat_high (by omega)
  have hthird : v / 64 % 64 < 64 := by omega
  have hlast : v % 64 < 64 := by omega
  have hvalue : (((v / 262144 % 8 + 240) % (64 >>> 3) * 64 + v / 4096 % 64) * 64 +
      v / 64 % 64) * 64 + v % 64 = v := by
    rw [show 64 >>> 3 = 8 from rfl]
    omega
  rw [utf8Chars_head (by omega) hhead, utf8Chars_inner (by omega) hlow hhigh,
    utf8Chars_inner hthird toNat_low_le (le_toNat_high hthird),
    utf8Chars_last hlast toNat_low_le (le_toNat_high hlast), hfirst, hvalue]

/-- The bytes of a character are read as the character. -/
theorem utf8Chars_encodeChar (c : Char) (rest : List UInt8) :
    utf8Chars 0 0 0x80 0xBF (String.utf8EncodeChar c ++ rest) =
      c :: utf8Chars 0 0 0x80 0xBF rest := by
  have hvalid : c.val.toNat < 0xD800 ∨ 0xDFFF < c.val.toNat ∧ c.val.toNat < 0x110000 := c.valid
  have hchar : Char.ofNat c.val.toNat = c := Char.ofNat_toNat c
  fun_cases String.utf8EncodeChar c with
  | case1 v hone =>
    have hbyte := UInt8.toNat_ofNat_of_lt' (show v < 256 by omega)
    rw [List.singleton_append, utf8Chars_ascii (by omega), hbyte, hchar]
  | case2 v hone htwo =>
    rw [List.cons_append, List.cons_append, List.nil_append, utf8Chars_two (by omega) htwo, hchar]
  | case3 v hone htwo hthree =>
    rw [List.cons_append, List.cons_append, List.cons_append, List.nil_append,
      utf8Chars_three (by omega) hthree (by omega), hchar]
  | case4 v hone htwo hthree =>
    rw [List.cons_append, List.cons_append, List.cons_append, List.cons_append, List.nil_append,
      utf8Chars_four (by omega) (by omega), hchar]

/-- The bytes of a text are read as the text. -/
theorem utf8Chars_flatMap (cs : List Char) :
    utf8Chars 0 0 0x80 0xBF (cs.flatMap String.utf8EncodeChar) = cs := by
  induction cs with
  | nil => rfl
  | cons c cs ih => rw [List.flatMap_cons, utf8Chars_encodeChar, ih]

end Rekey.Text
