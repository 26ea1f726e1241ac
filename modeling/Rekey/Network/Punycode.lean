/-!
# Labels in ASCII

A label of any characters is written in ASCII: first its ASCII characters and a hyphen, then where
the others stand and which they are, in ascending order, each as the difference from the one before.
A difference is a number whose digits say by their size which of them is the last; what counts as
small adapts to the differences met so far.
-/

namespace Rekey.Punycode

/-! ## Digits -/

/-- The digit of a value below 36: the letters, then the decimal digits. -/
def digitChar (d : Nat) : Char :=
  if d < 26 then Char.ofNat (0x61 + d) else Char.ofNat (0x16 + d)

/-- The value of a digit in either case. -/
def digit? (c : Char) : Option Nat :=
  let n := c.toNat
  if 0x61 ≤ n && n ≤ 0x7A then some (n - 0x61)
  else if 0x41 ≤ n && n ≤ 0x5A then some (n - 0x41)
  else if 0x30 ≤ n && n ≤ 0x39 then some (n - 0x16)
  else none

/-- The least digit that is not the last of its number. Places are counted in steps of 36. -/
def threshold (bias place : Nat) : Nat := max 1 (min 26 (place - bias))

theorem threshold_pos (bias place : Nat) : 1 ≤ threshold bias place := Nat.le_max_left _ _

/-- The digits of a number from a place on. -/
def digitsOf (bias place n : Nat) : List Char :=
  let t := threshold bias place
  if n < t then [digitChar n]
  else digitChar (t + (n - t) % (36 - t)) :: digitsOf bias (place + 36) ((n - t) / (36 - t))
termination_by n
decreasing_by
  have := threshold_pos bias place
  exact Nat.lt_of_le_of_lt (Nat.div_le_self _ _) (by omega)

/-- Scales a difference down until it is small, and gives the bias it asks for. -/
def biasFrom (base delta : Nat) : Nat :=
  if 455 < delta then biasFrom (base + 36) (delta / 35) else base + 36 * delta / (delta + 38)
termination_by delta
decreasing_by omega

/-- The bias after a difference, when `count` characters are placed. -/
def biasAfter (first : Bool) (delta count : Nat) : Nat :=
  let d := delta / (if first then 700 else 2)
  biasFrom 0 (d + d / count)

/-- The bias at the beginning. -/
def firstBias : Nat := 72

/-! ## Writing -/

/-- How far a label is written: the digits so far, the difference that has built up, the bias, and
how many characters are placed. -/
structure Writing where
  digits : List Char
  delta : Nat
  bias : Nat
  placed : Nat
deriving Repr, Inhabited

/-- Passes a character while those with one code point are placed. `basic` counts the ASCII
characters. -/
def Writing.pass (basic point : Nat) (w : Writing) (c : Char) : Writing :=
  if c.toNat < point then { w with delta := w.delta + 1 }
  else if c.toNat = point then
    { digits := w.digits ++ digitsOf w.bias 36 w.delta
      delta := 0
      bias := biasAfter (w.placed == basic) w.delta (w.placed + 1)
      placed := w.placed + 1 }
  else w

/-- Places all characters of the given code points, which ascend from `next` on. -/
def writePoints (cs : List Char) (basic next : Nat) (w : Writing) : List Nat → Writing
  | [] => w
  | point :: rest =>
    let w := { w with delta := w.delta + (point - next) * (w.placed + 1) }
    let w := cs.foldl (Writing.pass basic point) w
    writePoints cs basic (point + 1) { w with delta := w.delta + 1 } rest

/-- The written form of a label. -/
def encode (cs : List Char) : List Char :=
  let basic := cs.filter (·.toNat < 0x80)
  let others := (cs.filter (0x80 ≤ ·.toNat)).map Char.toNat
  let points := (others.mergeSort (· ≤ ·)).eraseDups
  let w := writePoints cs basic.length 0x80 ⟨[], 0, firstBias, basic.length⟩ points
  basic ++ (if basic.isEmpty then [] else ['-']) ++ w.digits

/-! ## Reading -/

/-- How far a label is read: its characters so far, the code point and the place that the next
difference starts from, the bias, and of a number that has begun its value, the weight of its next
digit and the place of that digit. -/
structure Reading where
  text : List Char
  point : Nat
  index : Nat
  bias : Nat
  value : Nat
  weight : Nat
  place : Nat
deriving Repr, Inhabited

/-- Places the character that a difference leads to. -/
def Reading.put (r : Reading) (delta : Nat) : Option Reading :=
  let count := r.text.length + 1
  let sum := r.index + delta
  let point := r.point + sum / count
  if point.isValidChar then
    some {
      text := r.text.insertIdx (sum % count) (Char.ofNat point)
      point := point
      index := sum % count + 1
      bias := biasAfter (r.index == 0) delta count
      value := 0
      weight := 1
      place := 36 }
  else none

/-- Reads digits up to the end. -/
def Reading.finish (r : Reading) : List Char → Option (List Char)
  | [] => if r.place = 36 then some r.text else none
  | c :: rest =>
    match digit? c with
    | none => none
    | some d =>
      let value := r.value + d * r.weight
      let t := threshold r.bias r.place
      if d < t then
        match r.put value with
        | some r => r.finish rest
        | none => none
      else
        { r with value := value, weight := r.weight * (36 - t), place := r.place + 36 }.finish rest

/-- The label that a written form stands for. -/
def decode? (cs : List Char) : Option (List Char) :=
  let after := (cs.reverse.takeWhile (· != '-')).reverse
  let basic := cs.take (cs.length - after.length - 1)
  let digits := if basic.isEmpty then cs else after
  Reading.finish ⟨basic, 0x80, 0, firstBias, 0, 1, 36⟩ digits

end Rekey.Punycode
