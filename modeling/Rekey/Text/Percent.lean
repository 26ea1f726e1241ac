import Rekey.Text.Charset

/-!
# Percent escapes

Where a character may not stand as it is, its bytes are written as percent signs with two
hexadecimal digits each.
-/

namespace Rekey

/-- The two upper-case hexadecimal digits of a byte after a percent sign. -/
def percentByte (b : UInt8) : List Char :=
  let digit (n : Nat) : Char := if n < 10 then Char.ofNat (0x30 + n) else Char.ofNat (0x37 + n)
  ['%', digit (b.toNat / 16), digit (b.toNat % 16)]

/-- The escapes of all bytes of a character. -/
def percentChar (c : Char) : List Char :=
  (String.singleton c).toUTF8.toList.flatMap percentByte

namespace Text

/-- The value of a hexadecimal digit. -/
def hexDigit? (c : Char) : Option Nat :=
  let n := c.toNat
  if 0x30 ≤ n && n ≤ 0x39 then some (n - 0x30)
  else if 0x41 ≤ n && n ≤ 0x46 then some (n - 0x37)
  else if 0x61 ≤ n && n ≤ 0x66 then some (n - 0x57)
  else none

/-- The byte that two hexadecimal digits write. -/
def hexByte? (a b : Char) : Option UInt8 :=
  match hexDigit? a, hexDigit? b with
  | some h, some l => some (UInt8.ofNat (h * 16 + l))
  | _, _ => none

/-- The bytes of a text in which escapes stand for bytes. A percent sign that begins no escape
stands for itself. -/
def percentDecode : List Char → List UInt8
  | [] => []
  | '%' :: a :: b :: r =>
    match hexByte? a b with
    | some byte => byte :: percentDecode r
    | none => 0x25 :: percentDecode (a :: b :: r)
  | c :: r => (String.singleton c).toUTF8.toList ++ percentDecode r

/-- Where bytes stop being UTF-8: how many are well formed before, and how many are wrong then, if
more bytes could not put it right. -/
structure Utf8Fault where
  validUpTo : Nat
  wrong : Option Nat
deriving DecidableEq, Repr, Inhabited

/-- The message of a fault. -/
def Utf8Fault.message (f : Utf8Fault) : String :=
  match f.wrong with
  | some n => "invalid utf-8 sequence of " ++ toString n ++ " bytes from index " ++
      toString f.validUpTo
  | none => "incomplete utf-8 byte sequence from index " ++ toString f.validUpTo

/-- The first place where bytes are no UTF-8. `start` is where the character begins of which
`seen` bytes have been read and `needed` are still missing, the next between the bounds. -/
def utf8Fault? (start seen needed : Nat) (low high : UInt8) : List UInt8 → Option Utf8Fault
  | [] => if needed = 0 then none else some ⟨start, none⟩
  | b :: r =>
    if needed = 0 then
      if b < 0x80 then utf8Fault? (start + 1) 0 0 0x80 0xBF r
      else
        match utf8Head b with
        | some (n, low, high) => utf8Fault? start 1 n low high r
        | none => some ⟨start, some 1⟩
    else if low ≤ b && b ≤ high then
      if needed = 1 then utf8Fault? (start + seen + 1) 0 0 0x80 0xBF r
      else utf8Fault? start (seen + 1) (needed - 1) 0x80 0xBF r
    else some ⟨start, some seen⟩

/-- The text of bytes that are UTF-8. -/
def utf8Text (bytes : List UInt8) : Except Utf8Fault (List Char) :=
  match utf8Fault? 0 0 0 0x80 0xBF bytes with
  | some f => .error f
  | none => .ok (utf8Chars 0 0 0x80 0xBF bytes)

end Text

end Rekey
