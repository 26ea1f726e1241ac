import Rekey.Text.Cut
import Rekey.Text.Percent

/-!
# Numeric addresses

Addresses of four bytes, whose parts may be written in three bases and of which the last may stand
for several bytes, and addresses of eight pieces of sixteen bits, of which one run of zeros may be
left out.
-/

namespace Rekey.Address

open Rekey.Text (cut join hexDigit?)

/-- The number that digits of a base write, if they are digits of it. -/
def ofDigits? (base : Nat) (cs : List Char) : Option Nat :=
  cs.foldl (fun n c =>
    match n, hexDigit? c with
    | some n, some d => if d < base then some (n * base + d) else none
    | _, _ => none) (some 0)

/-! ## Four bytes -/

/-- A part of an address of four bytes: hexadecimal after `0x`, octal after another `0`. -/
def part? : List Char → Option Nat
  | [] => none
  | '0' :: 'x' :: r | '0' :: 'X' :: r => ofDigits? 16 r
  | '0' :: c :: r => ofDigits? 8 (c :: r)
  | cs => ofDigits? 10 cs

/-- The parts between points, without an empty one at the end. -/
def parts (cs : List Char) : List (List Char) :=
  let ps := cut '.' cs
  if 1 < ps.length && ps.getLast? == some [] then ps.dropLast else ps

/-- A name whose last part is a number can only be an address. -/
def endsInNumber (cs : List Char) : Bool :=
  match (parts cs).getLast? with
  | none => false
  | some p => (!p.isEmpty && p.all Char.isDigit) || (part? p).isSome

/-- The address that parts write: all but the last are bytes, the last fills what remains. -/
def fourBytes? (cs : List Char) : Option Nat :=
  let ps := parts cs
  if 4 < ps.length then none
  else
    match ps.mapM part? with
    | none => none
    | some ns =>
      let leading := ns.dropLast
      let last := ns.getLastD 0
      if leading.any (255 < ·) || Nat.pow 256 (4 - leading.length) ≤ last then none
      else
        let high := leading.foldl (fun n b => n * 256 + b) 0
        some (high * Nat.pow 256 (4 - leading.length) + last)

/-- The written form of an address of four bytes. -/
def fourBytesText (n : Nat) : List Char :=
  join ['.'] ([n / 0x1000000, n / 0x10000 % 256, n / 0x100 % 256, n % 256].map (Nat.toDigits 10))

/-- An address of four decimal bytes without leading zeros. -/
def plainBytes? (cs : List Char) : Option (List Nat) :=
  let ps := cut '.' cs
  let byte? (p : List Char) : Option Nat :=
    if p.isEmpty || 3 < p.length || (p.head? == some '0' && 1 < p.length) then none
    else (ofDigits? 10 p).filter (· < 256)
  if ps.length = 4 then ps.mapM byte? else none

/-! ## Eight pieces -/

/-- The pieces that a text between colons writes; the last part of all may be four bytes. -/
def pieces? (last : Bool) (cs : List Char) : Option (List Nat) :=
  let group? (p : List Char) : Option (List Nat) :=
    if p.isEmpty || 4 < p.length then none else (ofDigits? 16 p).map ([·])
  let ending? (p : List Char) : Option (List Nat) :=
    match group? p, plainBytes? p with
    | some g, _ => some g
    | none, some [a, b, c, d] => some [a * 256 + b, c * 256 + d]
    | none, _ => none
  if cs.isEmpty then some []
  else
    let ps := cut ':' cs
    let final := ps.getLastD []
    match ps.dropLast.mapM group?, if last then ending? final else group? final with
    | some before, some after => some (before.flatten ++ after)
    | _, _ => none

/-- The text before and after the first double colon. -/
def atGap : List Char → Option (List Char × List Char)
  | ':' :: ':' :: r => some ([], r)
  | c :: r => (atGap r).map fun p => (c :: p.1, p.2)
  | [] => none

/-- The eight pieces of an address. A double colon stands for all the zeros that are missing. -/
def eightPieces? (cs : List Char) : Option (List Nat) :=
  match atGap cs with
  | none => (pieces? true cs).filter (·.length = 8)
  | some (before, after) =>
    match pieces? false before, pieces? true after with
    | some xs, some ys =>
      if xs.length + ys.length ≤ 7 then
        some (xs ++ List.replicate (8 - xs.length - ys.length) 0 ++ ys)
      else none
    | _, _ => none

/-- The first longest run of at least two zeros: where it starts and how long it is. -/
def longestGap (ps : List Nat) : Option (Nat × Nat) :=
  let runs := (List.range ps.length).map fun i => (i, ((ps.drop i).takeWhile (· == 0)).length)
  runs.foldl (fun best run =>
    if run.2 < 2 then best
    else
      match best with
      | some b => if b.2 < run.2 then some run else best
      | none => some run) none

/-- The written form of eight pieces: the longest run of zeros is left out. -/
def eightPiecesText (ps : List Nat) : List Char :=
  let group (xs : List Nat) : List Char := join [':'] (xs.map (Nat.toDigits 16))
  match longestGap ps with
  | none => group ps
  | some (start, length) => group (ps.take start) ++ [':', ':'] ++ group (ps.drop (start + length))

/-- A text that is an address of either kind, as a program states one. -/
def isLiteral (cs : List Char) : Bool :=
  (plainBytes? cs).isSome || (eightPieces? cs).isSome

end Rekey.Address
