/-!
# Points in time

A point in time is a count of seconds since the start of 1970 and a fraction in nanoseconds. A
fraction of a whole second or more names a moment inside a leap second, which follows the second
it is counted with. The text of a point in time is its UTC date and time.
-/

namespace Rekey

/-- A point in time. -/
structure Timestamp where
  seconds : Int
  nanos : Nat
deriving DecidableEq, Repr, Inhabited

namespace Timestamp

/-- The order of time. -/
def cmp (a b : Timestamp) : Ordering :=
  (compare a.seconds b.seconds).then (compare a.nanos b.nanos)

/-- `a` is not later than `b`. -/
def le (a b : Timestamp) : Bool :=
  (cmp a b).isLE

/-- Nanoseconds in a second. -/
def second : Nat := 1000000000

/-! ## Calendar -/

/-- A day of the calendar. -/
structure Date where
  year : Int
  month : Nat
  day : Nat
deriving DecidableEq, Repr

/-- A year with a twenty-ninth of February. -/
def isLeapYear (year : Int) : Bool :=
  year % 4 == 0 && (year % 100 != 0 || year % 400 == 0)

/-- The number of days of a month. -/
def daysInMonth (year : Int) (month : Nat) : Nat :=
  match month with
  | 2 => if isLeapYear year then 29 else 28
  | 4 | 6 | 9 | 11 => 30
  | _ => 31

/-- Days from the start of 1970 to a day. Years are counted from March, so that the leap day ends
its year. -/
def Date.dayNumber (d : Date) : Int :=
  let y : Int := if d.month ≤ 2 then d.year - 1 else d.year
  let shifted : Nat := (d.month + 9) % 12
  let yearOfEra : Int := y % 400
  let dayOfYear : Int := ((153 * shifted + 2) / 5 + d.day - 1 : Nat)
  y / 400 * 146097 + (yearOfEra * 365 + yearOfEra / 4 - yearOfEra / 100 + dayOfYear) - 719468

/-- The day that lies so many days after the start of 1970. -/
def Date.ofDayNumber (n : Int) : Date :=
  let z := n + 719468
  let dayOfEra : Int := z % 146097
  let yearOfEra := (dayOfEra - dayOfEra / 1460 + dayOfEra / 36524 - dayOfEra / 146096) / 365
  let dayOfYear := (dayOfEra - (365 * yearOfEra + yearOfEra / 4 - yearOfEra / 100)).toNat
  let shifted := (5 * dayOfYear + 2) / 153
  let month := if shifted < 10 then shifted + 3 else shifted - 9
  let year := yearOfEra + z / 146097 * 400
  ⟨if month ≤ 2 then year + 1 else year, month, dayOfYear - (153 * shifted + 2) / 5 + 1⟩

/-! ## Text -/

/-- A number with leading zeros up to a width. -/
def padded (width n : Nat) : String :=
  let ds := toString n
  String.ofList (List.replicate (width - ds.length) '0') ++ ds

/-- A year: four digits, or a sign and at least four digits outside them. -/
def yearText (year : Int) : String :=
  if 0 ≤ year && year ≤ 9999 then padded 4 year.toNat
  else (if year < 0 then "-" else "+") ++ padded 4 year.natAbs

/-- A fraction of a second in the fewest groups of three digits that give it exactly. -/
def fractionText (nanos : Nat) : String :=
  if nanos = 0 then ""
  else if nanos % 1000000 = 0 then "." ++ padded 3 (nanos / 1000000)
  else if nanos % 1000 = 0 then "." ++ padded 6 (nanos / 1000)
  else "." ++ padded 9 nanos

/-- The date and time of a point in time in UTC, followed by the text for its offset. -/
def textWith (offset : String) (t : Timestamp) : String :=
  let date := Date.ofDayNumber (t.seconds / 86400)
  let clock := (t.seconds % 86400).toNat
  let (leap, nanos) := if t.nanos ≥ second then (1, t.nanos - second) else (0, t.nanos)
  yearText date.year ++ "-" ++ padded 2 date.month ++ "-" ++ padded 2 date.day ++ "T" ++
    padded 2 (clock / 3600) ++ ":" ++ padded 2 (clock / 60 % 60) ++ ":" ++
    padded 2 (clock % 60 + leap) ++ fractionText nanos ++ offset

/-- The text in stored records. -/
def text (t : Timestamp) : String :=
  t.textWith "Z"

/-- The text in listings. -/
def offsetText (t : Timestamp) : String :=
  t.textWith "+00:00"

/-! ## Moving -/

/-- A point in time so many milliseconds later, earlier for a negative number. A move that stays
within a leap second keeps to it; one that leaves it counts the leap second as its predecessor. -/
def addMillis (t : Timestamp) (ms : Int) : Timestamp :=
  let whole := Int.tdiv ms 1000
  let part := Int.tmod ms 1000 * 1000000
  let normal (seconds nanos : Int) : Timestamp :=
    ⟨seconds + nanos / second, (nanos % second).toNat⟩
  if t.nanos < second then normal (t.seconds + whole) (t.nanos + part)
  else if whole > 0 || (part > 0 && t.nanos + part ≥ 2 * second) then
    normal (t.seconds + whole) (t.nanos - second + part)
  else if whole < 0 then normal (t.seconds + 1 + whole) (t.nanos - second + part)
  else ⟨t.seconds, (t.nanos + part).toNat⟩

end Timestamp

end Rekey
