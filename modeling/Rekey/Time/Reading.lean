import Rekey.Text.Blank
import Rekey.Time.Timestamp

/-!
# Reading points in time

A date, a time and an offset as RFC 3339 has them, read generously: white space may stand before
each number, numbers may lack their leading zeros, and a fraction may have any number of digits.
-/

namespace Rekey.Timestamp

open Rekey.Text (trimStart isBlank)

/-- The number of at most `width` digits at the start of a text. -/
def readNumber (width : Nat) (cs : List Char) : Option (Nat × List Char) :=
  let ds := (cs.take width).takeWhile Char.isDigit
  if ds.isEmpty then none
  else some (ds.foldl (fun n c => n * 10 + (c.toNat - 0x30)) 0, cs.drop ds.length)

/-- A year: up to four digits, or any number of them after a sign. -/
def readYear (cs : List Char) : Option (Int × List Char) :=
  match trimStart cs with
  | '-' :: r => (readNumber r.length r).map fun (n, r) => (-(n : Int), r)
  | '+' :: r => (readNumber r.length r).map fun (n, r) => ((n : Int), r)
  | r => (readNumber 4 r).map fun (n, r) => ((n : Int), r)

/-- A number of one or two digits between bounds. -/
def readPart (low high : Nat) (cs : List Char) : Option (Nat × List Char) :=
  match readNumber 2 (trimStart cs) with
  | some (n, r) => if low ≤ n && n ≤ high then some (n, r) else none
  | none => none

/-- A mark, with white space before it. -/
def readMark (mark : Char) (cs : List Char) : Option (List Char) :=
  match trimStart cs with
  | c :: r => if c == mark then some r else none
  | [] => none

/-- A fraction in nanoseconds; digits past the ninth are dropped. -/
def readFraction : List Char → Option (Nat × List Char)
  | '.' :: r =>
    (readNumber 9 r).map fun (n, rest) =>
      (n * Nat.pow 10 (9 - (r.length - rest.length)), rest.dropWhile Char.isDigit)
  | r => some (0, r)

/-- Two digits of an offset. -/
def readPair : List Char → Option (Nat × List Char)
  | a :: b :: r => if a.isDigit && b.isDigit then (readNumber 2 [a, b]).map (·.1, r) else none
  | _ => none

/-- An offset of hours and minutes; colons and white space may stand between them. -/
def readHoursMinutes (cs : List Char) : Option (Nat × List Char) :=
  match readPair cs with
  | none => none
  | some (hours, r) =>
    match readPair (r.dropWhile fun c => c == ':' || isBlank c) with
    | none => none
    | some (minutes, r) =>
      if hours < 24 && minutes < 60 then some (hours * 3600 + minutes * 60, r) else none

/-- An offset from UTC in seconds. -/
def readOffset (cs : List Char) : Option (Int × List Char) :=
  match trimStart cs with
  | 'Z' :: r => some (0, r)
  | 'z' :: r => some (0, r)
  | '+' :: r => (readHoursMinutes r).map fun (n, r) => ((n : Int), r)
  | '-' :: r => (readHoursMinutes r).map fun (n, r) => (-(n : Int), r)
  | '\u2212' :: r => (readHoursMinutes r).map fun (n, r) => (-(n : Int), r)
  | a :: b :: c :: r =>
    if a.toUpper == 'U' && b.toUpper == 'T' && c.toUpper == 'C' then some (0, r) else none
  | _ => none

/-- The years that points in time can have. -/
def inYearRange (year : Int) : Bool :=
  -262143 ≤ year && year ≤ 262142

/-- A date, and the rest. -/
def readDate (cs : List Char) : Option (Date × List Char) := do
  let (year, r) ← readYear cs
  let r ← readMark '-' r
  let (month, r) ← readPart 1 12 r
  let r ← readMark '-' r
  let (day, r) ← readPart 1 31 r
  if inYearRange year && day ≤ daysInMonth year month then some (⟨year, month, day⟩, r) else none

/-- The letter or the blank between date and time. -/
def readDivider : List Char → Option (List Char)
  | 'T' :: r => some r
  | 't' :: r => some r
  | ' ' :: r => some r
  | _ => none

/-- A time of day in seconds and nanoseconds, and the rest. Second 60 is the leap second after
second 59. -/
def readClock (cs : List Char) : Option ((Nat × Nat) × List Char) := do
  let (hour, r) ← readPart 0 23 cs
  let r ← readMark ':' r
  let (minute, r) ← readPart 0 59 r
  let r ← readMark ':' r
  let (sec, r) ← readPart 0 60 r
  let (nanos, r) ← readFraction r
  let clock := hour * 3600 + minute * 60
  some (if sec = 60 then (clock + 59, nanos + second) else (clock + sec, nanos), r)

/-- The point in time that characters write. -/
def ofChars? (cs : List Char) : Option Timestamp := do
  let (date, r) ← readDate cs
  let r ← readDivider r
  let ((clock, nanos), r) ← readClock r
  let (offset, r) ← readOffset r
  let seconds := date.dayNumber * 86400 + clock - offset
  if (trimStart r).isEmpty && inYearRange (Date.ofDayNumber (seconds / 86400)).year then
    some ⟨seconds, nanos⟩
  else none

/-- The point in time that a text writes. -/
def ofText? (s : String) : Option Timestamp :=
  ofChars? s.toList

end Rekey.Timestamp
