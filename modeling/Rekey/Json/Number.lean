/-!
# JSON numbers

A number is an integer of at most 64 bits or a binary floating-point number. Floats are written
with the fewest digits that read back as the same float, found in exact arithmetic.
-/

namespace Rekey.Json

/-- A JSON number. A float is kept as its 64 bits. -/
inductive Number where
  | integer (n : Int)
  | binary (bits : UInt64)
deriving DecidableEq, Repr, Inhabited

/-! ## The fewest digits that read back -/

/-- The magnitude `mantissa * 2 ^ exponent` of a finite float, with the half distances to its
neighbours in quarters of the last place. -/
structure Magnitude where
  mantissa : Nat
  exponent : Int
  below : Nat
deriving Repr

/-- The magnitude of the finite float with these bits. -/
def Magnitude.ofBits (bits : UInt64) : Magnitude :=
  let fraction : Nat := bits.toNat % Nat.pow 2 52
  let biased : Nat := bits.toNat / Nat.pow 2 52 % Nat.pow 2 11
  let below := if fraction = 0 && biased != 1 then 1 else 2
  if biased = 0 then ⟨fraction, -1074, 2⟩
  else ⟨Nat.pow 2 52 + fraction, (biased : Int) - 1075, below⟩

/-- How many decimal digits a natural number has. -/
def digitCount (n : Nat) : Nat :=
  (Nat.toDigits 10 n).length

/-- The decimal point of `num / den`: the least `k` with `num / den < 10 ^ k`. -/
def pointOf (num den : Nat) : Int :=
  if num ≥ den then digitCount (num / den) else 1 - (digitCount ((den - 1) / num) : Int)

/-- The digits of `c` without trailing zeros and how many zeros were taken off. -/
def stripZeros (c : Nat) : List Char × Nat :=
  let ds := Nat.toDigits 10 c
  let rest := ds.reverse.dropWhile (· == '0')
  (rest.reverse, ds.length - rest.length)

/-- The digits and the exponent of ten of the last digit of a positive magnitude: on the first
decimal grid with a point that reads back, the nearest such point, the even one of two. -/
def Magnitude.shortest (m : Magnitude) : List Char × Int :=
  -- value = 4 * mantissa * up / down, in quarters of the last place
  let up := Nat.pow 2 (m.exponent - 2).toNat
  let down := Nat.pow 2 (2 - m.exponent).toNat
  let value := 4 * m.mantissa * up
  let low := (4 * m.mantissa - m.below) * up
  let high := (4 * m.mantissa + 2) * up
  let point := pointOf value down
  let closed := m.mantissa % 2 = 0
  let reads (c scaleUp scaleDown : Nat) : Bool :=
    let v := c * scaleDown * down
    let l := low * scaleUp
    let h := high * scaleUp
    if closed then l ≤ v && v ≤ h else l < v && v < h
  let grid (n : Nat) : Option (List Char × Int) :=
    let unit := point - n
    let scaleUp := Nat.pow 10 (-unit).toNat
    let scaleDown := Nat.pow 10 unit.toNat
    let c := value * scaleUp / (down * scaleDown)
    let twice := 2 * value * scaleUp
    let middle := (2 * c + 1) * scaleDown * down
    let pick : Option Nat :=
      match reads c scaleUp scaleDown, reads (c + 1) scaleUp scaleDown with
      | true, true =>
        if twice < middle then some c
        else if middle < twice then some (c + 1)
        else if c % 2 = 0 then some c else some (c + 1)
      | true, false => some c
      | false, true => some (c + 1)
      | false, false => none
    pick.map fun c => let (ds, zeros) := stripZeros c; (ds, unit + zeros)
  ((List.range 17).findSome? fun i => grid (i + 1)).getD (['0'], 0)

/-- The text of a positive decimal `digits * 10 ^ unit`: positional when the point falls within
sixteen digits or at most four zeros before them, otherwise with an exponent, whose sign is always
written. -/
def decimalChars (digits : List Char) (unit : Int) : List Char :=
  let length := digits.length
  let point := (length : Int) + unit
  if 0 ≤ unit && point ≤ 16 then digits ++ List.replicate unit.toNat '0' ++ ['.', '0']
  else if 0 < point && point ≤ 16 then
    digits.take point.toNat ++ '.' :: digits.drop point.toNat
  else if -5 < point && point ≤ 0 then
    '0' :: '.' :: List.replicate (-point).toNat '0' ++ digits
  else
    let sign := if 0 < point then '+' else '-'
    let power := sign :: Nat.toDigits 10 (point - 1).natAbs
    match digits with
    | [d] => d :: 'e' :: power
    | d :: ds => d :: '.' :: ds ++ 'e' :: power
    | [] => []

/-- The text of a float; what is not finite has no written form and shows as null. -/
def binaryChars (bits : UInt64) : List Char :=
  let sign := if bits.toNat / Nat.pow 2 63 = 1 then ['-'] else []
  let body := bits.toNat % Nat.pow 2 63
  if body / Nat.pow 2 52 = 2047 then ['n', 'u', 'l', 'l']
  else if body = 0 then sign ++ ['0', '.', '0']
  else
    let (digits, unit) := (Magnitude.ofBits bits).shortest
    sign ++ decimalChars digits unit

/-- The written form of a number. -/
def Number.chars : Number → List Char
  | .integer n => (toString n).toList
  | .binary bits => binaryChars bits

/-! ## Reading a numeral -/

/-- A numeral taken apart: sign, digits before and after the point, exponent. -/
structure Numeral where
  negative : Bool
  whole : List Char
  fraction : List Char
  exponent : Option Int
deriving Repr, DecidableEq

/-- The value of a digit. -/
def digitValue (c : Char) : Nat :=
  c.toNat - 0x30

/-- Reading digits one by one while the number still fits in 64 bits: the number read, and the
digits that no longer fit. -/
def readDigits (acc : Nat) : List Char → Nat × List Char
  | [] => (acc, [])
  | c :: r =>
    let next := acc * 10 + digitValue c
    if next < UInt64.size then readDigits next r else (acc, c :: r)

/-- A significand times a power of ten as a float, or none when it is too large. The power is
applied in steps of at most 308, which fixes how the result is rounded. -/
def scaleFloat (f : Float) (exponent : Int) : Option Float :=
  if exponent.natAbs ≤ 308 then
    let power := Float.ofScientific 1 false exponent.natAbs
    if exponent ≥ 0 then
      let g := f * power
      if g.isInf then none else some g
    else some (f / power)
  else if f == 0.0 then some f
  else if exponent ≥ 0 then none
  else
    -- a second step of 308 would leave nothing of any significand of 64 bits
    let rest := (exponent + 308).natAbs
    let once := f / Float.ofScientific 1 false 308
    if rest ≤ 308 then some (once / Float.ofScientific 1 false rest) else some 0.0

/-- The number that a numeral writes, or none when it lies outside the range of floats. A numeral
without point and exponent that fits in 64 bits is an integer; minus zero is a float. -/
def Numeral.value (n : Numeral) : Option Number :=
  let negate (f : Float) : Float := if n.negative then -f else f
  let (significand, extra) := readDigits 0 n.whole
  let ofFloat (f : Option Float) : Option Number := f.map fun f => .binary (negate f).toBits
  if n.fraction.isEmpty && n.exponent.isNone then
    if !extra.isEmpty then ofFloat (scaleFloat (Float.ofNat significand) extra.length)
    else if !n.negative then some (.integer significand)
    else if significand = 0 || significand > Nat.pow 2 63 then
      some (.binary (negate (Float.ofNat significand)).toBits)
    else some (.integer (-(significand : Int)))
  else
    let (mantissa, dropped) := readDigits significand n.fraction
    let unit : Int := (extra.length : Int) - ((n.fraction.length : Int) - dropped.length)
    let power := n.exponent.getD 0
    -- an exponent beyond 32 bits is zero or out of range whatever the point adds to it
    if power.natAbs ≥ Nat.pow 2 31 then
      if mantissa ≠ 0 && power > 0 then none else some (.binary (negate 0.0).toBits)
    else ofFloat (scaleFloat (Float.ofNat mantissa) (unit + power))

end Rekey.Json
