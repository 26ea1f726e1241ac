import Rekey.Text.Width.Tables

/-!
# Display width

How many columns a line of text takes on a terminal: two for an East Asian wide character or a
picture, none for a mark that attaches to its neighbour, one for everything else, a tab and other
controls included. Letters of some scripts run together and pictures are joined to one picture, so
a line is measured from its end: each character is met by what stands after it.
-/

namespace Rekey.Text

namespace Width

/-- Letters that run together with a letter before them. -/
inductive Letter where
  /-- an Arabic alef, after a lam -/
  | alef
  /-- a Hebrew lamed, after an alef and a joiner -/
  | lamed
  /-- a Buginese ya, after a vowel sign i and a joiner -/
  | ya
  /-- that vowel sign before its ya, after a letter a -/
  | signBeforeYa
  /-- a Tifinagh consonant, after a consonant and a joiner -/
  | consonant
  /-- the Tifinagh consonant joiner before its consonant -/
  | joinerBeforeConsonant
  /-- a Lisu tone letter of the second kind, after one of the first -/
  | tone
  /-- an Old Turkic letter i, after a letter ec and a joiner -/
  | orkhonI
  /-- a Khmer letter that can stand below another one, after the sign that puts it there -/
  | subjoined
deriving DecidableEq, Repr

/-- What a character meets: the part of the text after it that it can run together with. -/
inductive Follower where
  | nothing
  | lineFeed
  | skinTone
  /-- letters of flags -/
  | flagLetters (several : Bool)
  | picture
  /-- a joiner before a picture, with a keycap before it or not -/
  | joiner (keycap : Bool)
  /-- letters of flags before a joiner and a picture -/
  | joinedFlag (letters : Nat)
  /-- the tags that end the name of a flag, before a joiner and a picture -/
  | tags (letters digits : Nat)
  /-- a Kirat Rai vowel sign e or ai -/
  | vowelSign (double : Bool)
  /-- a letter, with a joiner before it or not -/
  | letter (l : Letter) (joined : Bool)
deriving DecidableEq, Repr

/-- The form that a selector asks for. -/
inductive Form where
  | own
  | plain
  | coloured
deriving DecidableEq, Repr

/-- The measure of a text: its columns, and what a character before it meets. -/
structure Measure where
  columns : Nat
  follower : Follower
  form : Form
deriving DecidableEq, Repr

/-! ## Classes -/

/-- A character that is shown as a picture. -/
def isPicture (c : Char) : Bool := inBounds pictureBounds c.toNat

/-- A character that has a coloured form. -/
def hasColoured (c : Char) : Bool := inBounds formBounds c.toNat

/-- A picture that takes one column in its plain form. Squared ideographs take two in any form. -/
def hasNarrow (c : Char) : Bool :=
  hasColoured c && isPicture c && !(0x1F200 ≤ c.toNat && c.toNat ≤ 0x1F2FF)

/-- A letter of a flag. -/
def isFlagLetter (c : Char) : Bool := 0x1F1E6 ≤ c.toNat && c.toNat ≤ 0x1F1FF

/-- A skin tone. -/
def isSkinTone (c : Char) : Bool := 0x1F3FB ≤ c.toNat && c.toNat ≤ 0x1F3FF

/-- A mark without a form of its own, which letters of all scripts run together across. -/
def isIgnoredMark (c : Char) : Bool :=
  c == '\u034F' || c == '\u17B4' || c == '\u17B5' || ('\u180B' ≤ c && c ≤ '\u180D') ||
  c == '\u180F' || ('\uFE00' ≤ c && c ≤ '\uFE0F') || (0xE0100 ≤ c.toNat && c.toNat ≤ 0xE01EF)

/-- A mark that Arabic letters join across. -/
def isTransparent (c : Char) : Bool :=
  inBounds zeroWidthBounds c.toNat && !inBounds fixedBounds c.toNat

/-- An Arabic letter of the group of alef. -/
def isAlef (c : Char) : Bool :=
  let n := c.toNat
  n == 0x622 || n == 0x623 || n == 0x625 || n == 0x627 || (0x671 ≤ n && n ≤ 0x673) ||
  n == 0x675 || n == 0x773 || n == 0x774 || (0x870 ≤ n && n ≤ 0x882)

/-- An Arabic letter of the group of lam. -/
def isLam (c : Char) : Bool :=
  let n := c.toNat
  n == 0x644 || (0x6B5 ≤ n && n ≤ 0x6B8) || n == 0x76A || n == 0x8A6 || n == 0x8C7

/-- A Tifinagh consonant. -/
def isTifinaghConsonant (c : Char) : Bool := ('\u2D31' ≤ c && c ≤ '\u2D65') || c == '\u2D6F'

/-- A Khmer letter that can stand below another one. -/
def isSubjoinable (c : Char) : Bool :=
  let n := c.toNat
  (0x1780 ≤ n && n ≤ 0x1782) || (0x1784 ≤ n && n ≤ 0x1787) || (0x1789 ≤ n && n ≤ 0x178C) ||
  (0x178E ≤ n && n ≤ 0x1793) || (0x1795 ≤ n && n ≤ 0x1798) || (0x179B ≤ n && n ≤ 0x179D) ||
  n == 0x17A0 || n == 0x17A2 || n == 0x17A7 || n == 0x17AB || n == 0x17AC || n == 0x17AF

/-- The letter that a character is to the characters before it. -/
def Letter.ofChar? (c : Char) : Option Letter :=
  if isAlef c then some .alef
  else if c == '\u05DC' then some .lamed
  else if c == '\u1A10' then some .ya
  else if isTifinaghConsonant c then some .consonant
  else if c == '\uA4FC' || c == '\uA4FD' then some .tone
  else if c.toNat == 0x10C03 then some .orkhonI
  else if isSubjoinable c then some .subjoined
  else none

/-! ## One character before a text -/

/-- A selector before a text. It keeps apart what is no letter and no joiner. -/
def Measure.select (m : Measure) (form : Form) : Measure :=
  match m.follower, form with
  | .letter _ _, _ => { m with form := form }
  | .joiner _, .coloured => { m with form := form }
  | _, _ => ⟨m.columns, .nothing, form⟩

/-- A text whose first character is a selector that asks nothing of the character before it. -/
def Measure.unselected (m : Measure) : Measure :=
  match m.follower with
  | .letter _ _ => { m with form := .own }
  | _ => ⟨m.columns, .nothing, .own⟩

/-- A character that stands for itself. -/
def Measure.alone (c : Char) (n : Nat) : Measure :=
  if c == '\uFE0E' then ⟨n, .nothing, .plain⟩
  else if c == '\uFE0F' then ⟨n, .nothing, .coloured⟩
  else if isFlagLetter c then ⟨n + 1, .flagLetters false, .own⟩
  else if isSkinTone c then ⟨n + 2, .skinTone, .own⟩
  else if isPicture c then ⟨n + 2, .picture, .own⟩
  else if c == '\u17D8' then ⟨n + 3, .nothing, .own⟩
  else if c.toNat == 0x16D67 then ⟨n + 1, .vowelSign false, .own⟩
  else if c.toNat == 0x16D68 then ⟨n + 1, .vowelSign true, .own⟩
  else
    let follower := ((Letter.ofChar? c).map (.letter · false)).getD .nothing
    if inBounds zeroWidthBounds c.toNat then ⟨n, follower, .own⟩
    else if inBounds wideBounds c.toNat then ⟨n + 2, follower, .own⟩
    else ⟨n + 1, follower, .own⟩

/-- A letter that may run together with the letter after it: the columns of both with the text
after them. -/
def Letter.before? (c : Char) (n : Nat) : Letter → Bool → Option (Nat × Follower)
  | .alef, _ =>
    if isLam c then some (n, .nothing)
    else if isTransparent c then some (n, .letter .alef false)
    else none
  | .lamed, true => if c == '\u05D0' then some (n, .nothing) else none
  | .ya, true => if c == '\u1A17' then some (n, .letter .signBeforeYa true) else none
  | .signBeforeYa, _ => if c == '\u1A15' then some (n, .nothing) else none
  | .consonant, joined =>
    if c == '\u2D7F' then some (n + 1, .letter .joinerBeforeConsonant true)
    else if joined && isTifinaghConsonant c then some (n, .nothing)
    else none
  | .joinerBeforeConsonant, _ =>
    if isTifinaghConsonant c then some (n - 1, .nothing) else none
  | .tone, _ => if '\uA4F8' ≤ c && c ≤ '\uA4FB' then some (n, .nothing) else none
  | .orkhonI, true => if c.toNat == 0x10C32 then some (n, .nothing) else none
  | .subjoined, _ => if c == '\u17D2' then some (n - 1, .nothing) else none
  | _, false => none

/-- Tags that belong to the name of a flag: three digits or three letters and more end it. -/
def tagsBefore? (c : Char) (n letters digits : Nat) : Option (Nat × Follower) :=
  if 0xE0061 ≤ c.toNat && c.toNat ≤ 0xE007A && digits = 0 && letters < 6 then
    some (n, .tags (letters + 1) 0)
  else if 0xE0030 ≤ c.toNat && c.toNat ≤ 0xE0039 && digits < 3 && (digits ≠ 0 || letters ≤ 4) then
    some (n, .tags 0 (digits + 1))
  else if c.toNat == 0x1F3F4 && (digits = 3 || digits = 0 && 3 ≤ letters) then some (n, .picture)
  else none

/-- A character that may run together with what it meets: the columns with the text after it, and
what the next character meets. -/
def Follower.before? (c : Char) (n : Nat) : Follower → Option (Nat × Follower)
  | .letter l joined => l.before? c n joined
  | .skinTone =>
    if inBounds toneBounds c.toNat then some (n, .picture)
    else if c == '\u200D' then some (n, .joiner false)
    else none
  | .flagLetters several =>
    if isFlagLetter c then some (n + 1, .flagLetters true)
    else if several && c == '\u200D' then some (n, .joiner false)
    else none
  | .picture => if c == '\u200D' then some (n, .joiner false) else none
  | .joiner false =>
    if c == '\u20E3' then some (n, .joiner true)
    else if isFlagLetter c then some (n + 1, .joinedFlag 1)
    else if isSkinTone c then some (n, .skinTone)
    else if c.toNat == 0xE007F then some (n, .tags 0 0)
    else if isPicture c then some (n, .picture)
    else none
  | .joinedFlag letters =>
    if isFlagLetter c then
      some (if letters % 2 = 1 then n - 1 else n + 3, .joinedFlag (letters + 1))
    else if c == '\u200D' && 1 < letters then some (n, .joiner false)
    else none
  | .tags letters digits => tagsBefore? c n letters digits
  | .vowelSign false =>
    if c.toNat == 0x16D63 || c.toNat == 0x16D69 then some (n, .nothing)
    else if c.toNat == 0x16D67 then some (n, .vowelSign true)
    else if c.toNat == 0x16D68 then some (n + 1, .vowelSign false)
    else none
  | .vowelSign true => if c.toNat == 0x16D63 then some (n, .nothing) else none
  | _ => none

/-- A character beyond the Latin ones before a text. -/
def Measure.meet (c : Char) (m : Measure) : Measure :=
  if c == '\uFE0F' then m.select .coloured
  else if c == '\uFE0E' then m.select .plain
  else if m.form = .plain && hasNarrow c then ⟨m.columns + 1, .nothing, .own⟩
  else
    let m := if m.form = .plain then m.unselected else m
    let met : Option (Nat × Follower) :=
      match m.follower with
      | .letter .alef _ => m.follower.before? c m.columns
      | .letter l joined =>
        if c == '\u200D' then some (m.columns, .letter l true)
        else if isIgnoredMark c then some (m.columns, .letter l joined)
        else m.follower.before? c m.columns
      | _ => m.follower.before? c m.columns
    match met with
    | some (n, follower) => ⟨n, follower, .own⟩
    | none => .alone c m.columns

/-- A character before a text. -/
def Measure.cons (c : Char) (m : Measure) : Measure :=
  if m.form = .coloured && hasColoured c then
    match m.follower with
    | .joiner _ => ⟨m.columns, .picture, .own⟩
    | _ => ⟨m.columns + 2, .picture, .own⟩
  else
    let m := if m.form = .coloured then m.unselected else m
    if c == '\n' then ⟨m.columns + 1, .lineFeed, .own⟩
    else if c == '\r' && m.follower = .lineFeed then ⟨m.columns, .nothing, .own⟩
    else if c.toNat ≤ 0xA0 then ⟨m.columns + 1, .nothing, .own⟩
    else m.meet c

end Width

/-- Columns of a line. -/
def lineWidth (cs : List Char) : Nat :=
  (cs.foldr Width.Measure.cons ⟨0, .nothing, .own⟩).columns

end Rekey.Text
