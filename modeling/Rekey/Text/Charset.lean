/-!
# Text from bytes

Bytes become text by the character set that they are labelled with, UTF-8 if none is. Bytes that
are no character become U+FFFD.
-/

namespace Rekey.Text

/-- What stands for bytes that are no character. -/
def replacement : Char := '\uFFFD'

/-- How many bytes follow the first byte of a character, and the bounds of the second. -/
def utf8Head (b : UInt8) : Option (Nat × UInt8 × UInt8) :=
  if 0xC2 ≤ b && b ≤ 0xDF then some (1, 0x80, 0xBF)
  else if b == 0xE0 then some (2, 0xA0, 0xBF)
  else if b == 0xED then some (2, 0x80, 0x9F)
  else if 0xE1 ≤ b && b ≤ 0xEF then some (2, 0x80, 0xBF)
  else if b == 0xF0 then some (3, 0x90, 0xBF)
  else if b == 0xF4 then some (3, 0x80, 0x8F)
  else if 0xF1 ≤ b && b ≤ 0xF3 then some (3, 0x80, 0xBF)
  else none

/-- Reads UTF-8. `needed` more bytes complete the character begun with `value`, the next of them
between the bounds; a character that is cut short becomes one replacement. -/
def utf8Chars (needed value : Nat) (low high : UInt8) : List UInt8 → List Char
  | [] => if needed = 0 then [] else [replacement]
  | b :: r =>
    if needed ≠ 0 && low ≤ b && b ≤ high then
      let value := value * 64 + b.toNat % 64
      if needed = 1 then Char.ofNat value :: utf8Chars 0 0 0x80 0xBF r
      else utf8Chars (needed - 1) value 0x80 0xBF r
    else
      let cutShort := if needed = 0 then [] else [replacement]
      if b < 0x80 then cutShort ++ Char.ofNat b.toNat :: utf8Chars 0 0 0x80 0xBF r
      else
        match utf8Head b with
        | some (n, low, high) => cutShort ++ utf8Chars n (b.toNat % (64 >>> n)) low high r
        | none => cutShort ++ replacement :: utf8Chars 0 0 0x80 0xBF r

/-- The characters of the bytes 0x80 to 0x9F in the western European set. -/
def westernControls : List Nat :=
  [0x20AC, 0x81, 0x201A, 0x192, 0x201E, 0x2026, 0x2020, 0x2021, 0x2C6, 0x2030, 0x160, 0x2039, 0x152,
    0x8D, 0x17D, 0x8F, 0x90, 0x2018, 0x2019, 0x201C, 0x201D, 0x2022, 0x2013, 0x2014, 0x2DC, 0x2122,
    0x161, 0x203A, 0x153, 0x9D, 0x17E, 0x178]

/-- The character of a byte in the western European set. -/
def westernChar (b : UInt8) : Char :=
  if 0x80 ≤ b && b ≤ 0x9F then Char.ofNat ((westernControls[b.toNat - 0x80]?).getD 0xFFFD)
  else Char.ofNat b.toNat

/-- The units of UTF-16 text. An odd byte at the end is a unit that pairs with none. -/
def units16 (bigEndian : Bool) : List UInt8 → List Nat
  | [] => []
  | [_] => [0xDC00]
  | a :: b :: r =>
    (if bigEndian then a.toNat * 256 + b.toNat else b.toNat * 256 + a.toNat) ::
      units16 bigEndian r

/-- Reads UTF-16 units. -/
def utf16Chars : List Nat → List Char
  | [] => []
  | hi :: lo :: r =>
    if 0xD800 ≤ hi && hi ≤ 0xDBFF && 0xDC00 ≤ lo && lo ≤ 0xDFFF then
      Char.ofNat (0x10000 + (hi - 0xD800) * 0x400 + (lo - 0xDC00)) :: utf16Chars r
    else if 0xD800 ≤ hi && hi ≤ 0xDFFF then replacement :: utf16Chars (lo :: r)
    else Char.ofNat hi :: utf16Chars (lo :: r)
  | [u] => if 0xD800 ≤ u && u ≤ 0xDFFF then [replacement] else [Char.ofNat u]

/-- The character sets that text can be labelled with. -/
inductive Charset where
  | utf8
  | utf16 (bigEndian : Bool)
  | western
deriving DecidableEq, Repr, Inhabited

namespace Charset

/-- The set with this label. A label that names none means UTF-8. -/
def ofLabel (label : String) : Charset :=
  let l := label.toLower
  if ["utf-16", "utf-16le", "unicode", "ucs-2", "iso-10646-ucs-2", "csunicode"].contains l then
    .utf16 false
  else if ["utf-16be", "unicodefffe"].contains l then .utf16 true
  else if ["iso-8859-1", "latin1", "windows-1252", "us-ascii", "ascii", "cp1252", "l1",
      "iso8859-1", "iso88591", "iso_8859-1", "x-cp1252", "cp819", "ibm819"].contains l then .western
  else .utf8

/-- The text of bytes. A mark at the beginning overrides the label and is no part of the text. -/
def decode (set : Charset) : List UInt8 → String
  | 0xEF :: 0xBB :: 0xBF :: r => String.ofList (utf8Chars 0 0 0x80 0xBF r)
  | 0xFF :: 0xFE :: r => String.ofList (utf16Chars (units16 false r))
  | 0xFE :: 0xFF :: r => String.ofList (utf16Chars (units16 true r))
  | bytes =>
    match set with
    | .utf8 => String.ofList (utf8Chars 0 0 0x80 0xBF bytes)
    | .utf16 bigEndian => String.ofList (utf16Chars (units16 bigEndian bytes))
    | .western => String.ofList (bytes.map westernChar)

end Charset

end Rekey.Text
