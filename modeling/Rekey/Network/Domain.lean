import Rekey.Network.Domain.Classes
import Rekey.Network.Domain.Composition
import Rekey.Network.Domain.Spellings
import Rekey.Network.Punycode
import Rekey.Text.Ranges

/-!
# Domain names

The name of a domain has one form in ASCII. Characters are brought into one spelling and composed,
labels are checked, and a label beyond ASCII is written behind the mark `xn--`. In a name that holds
anything read from right to left every label must be readable in one direction.
-/

namespace Rekey.Domain

open Rekey.Text (cut join inBounds)

/-! ## Spelling -/

/-- ASCII characters that no domain name holds. -/
def isDenied (c : Char) : Bool :=
  c.toNat ≤ 0x20 || c.toNat == 0x7F ||
    ['#', '%', '/', ':', '<', '>', '?', '@', '[', '\\', ']', '^', '|'].contains c

/-- A character of ASCII. -/
def isAscii (c : Char) : Bool := c.toNat < 0x80

/-- The characters that have a spelling of their own. -/
def spellings : List (Char × List Char) := wordsOf spellingLines

/-- How a character beyond ASCII is spelled otherwise, if it is. -/
def respelling? (c : Char) : Option (List Char) :=
  let n := c.toNat
  match shiftedRuns.find? fun run => run.1 ≤ n && n ≤ run.2.1 with
  | some (first, _, target) => some [Char.ofNat (target + (n - first))]
  | none =>
    if pairedRuns.any fun run => run.1 ≤ n && n ≤ run.2 && (n - run.1) % 2 == 0 then
      some [Char.ofNat (n + 1)]
    else spellings.lookup c

/-- How a character is spelled, if a name can hold it. -/
def spelling? (c : Char) : Option (List Char) :=
  if isAscii c then some [c.toLower]
  else if inBounds ignoredBounds c.toNat then some []
  else
    match respelling? c with
    | some cs => some cs
    | none => if inBounds disallowedBounds c.toNat then none else some [c]

/-- Characters in their one spelling, composed. -/
def spelled? (cs : List Char) : Option (List Char) :=
  if cs.all isAscii then some (cs.map Char.toLower)
  else (cs.mapM spelling?).map fun parts => composed parts.flatten

/-! ## Labels -/

/-- The most characters behind the mark of a label that is read. -/
def longestRead : Nat := 2000

/-- The most characters of a label that is written in ASCII. -/
def longestWritten : Nat := 1000

/-- What a label behind the mark is in ASCII, without the mark. -/
def marked? : List Char → Option (List Char)
  | 'x' :: 'n' :: '-' :: '-' :: r => some r
  | _ => none

/-- The label that a marked one stands for. It must need the mark, and be in its one spelling. -/
def unmarked? (cs : List Char) : Option (List Char) :=
  if longestRead < cs.length || !cs.all isAscii then none
  else
    (Punycode.decode? cs).filter fun label =>
      !label.all isAscii && (marked? label).isNone && spelled? label == some label

/-- A label as people read it. -/
def readable? (label : List Char) : Option (List Char) :=
  match marked? label with
  | some cs => unmarked? cs
  | none => some label

/-- A label as machines read it. -/
def written? (label : List Char) : Option (List Char) :=
  if label.all isAscii then some label
  else if longestWritten < label.length then none
  else some ("xn--".toList ++ Punycode.encode label)

/-- A mark that needs a letter before it. -/
def isMark (c : Char) : Bool :=
  inBounds nonspacingBounds c.toNat || inBounds spacingMarkBounds c.toNat ||
    leftToRightMarks.contains c.toNat

/-! ## Joining -/

/-- The class of marks after which a consonant is without its vowel. -/
def vowelKiller : Nat := 9

/-- A character that joining passes over. -/
def isPassedOver (c : Char) : Bool :=
  inBounds nonspacingBounds c.toNat || leftToRightMarks.contains c.toNat ||
    c.toNat == passedLetter

/-- A letter that joins with the one after it. -/
def joinsAfter (c : Char) : Bool :=
  inBounds leftJoiningBounds c.toNat || inBounds bothJoiningBounds c.toNat

/-- A letter that joins with the one before it. -/
def joinsBefore (c : Char) : Bool :=
  inBounds rightJoiningBounds c.toNat || inBounds bothJoiningBounds c.toNat

/-- Joiners stand where they bear on the writing: behind a mark that takes a vowel away, or, if they
keep letters apart, between letters that would join. `before` are the characters before, the last
first. -/
def joinersFit (before : List Char) : List Char → Bool
  | [] => true
  | c :: r =>
    let killed := (before.head?.map markClass) == some vowelKiller
    let joined (cs : List Char) (p : Char → Bool) : Bool :=
      ((cs.dropWhile isPassedOver).head?.map p).getD false
    let fits :=
      if c.toNat == 0x200C then killed || (joined before joinsAfter && joined r joinsBefore)
      else if c.toNat == 0x200D then killed
      else true
    fits && joinersFit (c :: before) r

/-! ## Directions -/

/-- How a character bears on the direction of a text. -/
inductive Direction where
  | leftToRight
  | rightToLeft
  | europeanNumber
  | arabicNumber
  | nonspacing
  | neutral
deriving DecidableEq, Repr, Inhabited

/-- The direction of a character. -/
def direction (c : Char) : Direction :=
  let n := c.toNat
  if isAscii c then
    if c.isAlpha then .leftToRight else if c.isDigit then .europeanNumber else .neutral
  else if inBounds rightToLeftBounds n then .rightToLeft
  else if inBounds nonspacingBounds n then .nonspacing
  else if inBounds neutralBounds n then .neutral
  else if inBounds arabicNumberBounds n then .arabicNumber
  else if inBounds europeanNumberBounds n then .europeanNumber
  else .leftToRight

/-- A direction that makes it matter. -/
def Direction.matters (d : Direction) : Bool := d == .rightToLeft || d == .arabicNumber

/-- A label reads in one direction: it begins with a letter, holds no letter of the other direction,
and ends with a letter or a number. From right to left it has numbers of one kind only. -/
def readsOneWay (ds : List Direction) : Bool :=
  let ending := (ds.reverse.dropWhile (· == .nonspacing)).head?
  match ds.head? with
  | none => true
  | some .leftToRight =>
    !ds.any Direction.matters &&
      (ending == some .leftToRight || ending == some .europeanNumber)
  | some .rightToLeft =>
    !ds.contains .leftToRight && !(ds.contains .europeanNumber && ds.contains .arabicNumber) &&
      (ending == some .rightToLeft || ending == some .europeanNumber ||
        ending == some .arabicNumber)
  | some _ => false

/-! ## Names -/

/-- Labels as people read them that can make a name. -/
def labelsFit (labels : List (List Char)) : Bool :=
  let directions := labels.map (·.map direction)
  labels.all (fun l => !(l.head?.map isMark).getD false && joinersFit [] l) &&
    (!directions.any (·.any Direction.matters) || directions.all readsOneWay)

/-- The one form of a domain name. -/
def ascii? (cs : List Char) : Option (List Char) :=
  match spelled? cs with
  | none => none
  | some spelled =>
    let labels := cut '.' spelled
    match labels.mapM readable?, labels.mapM written? with
    | some readable, some written =>
      let name := join ['.'] written
      if labelsFit readable && !name.any isDenied then some name else none
    | _, _ => none

end Rekey.Domain
