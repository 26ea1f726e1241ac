import Rekey.Json.Number
import Rekey.Json.Quoted

/-!
# JSON tokens

A text cut into tokens. Cutting never fails: where the text stops being JSON the list of tokens
ends with a broken one, so a reader of the tokens sees everything that came before.
-/

namespace Rekey.Json

/-- A token. A string whose escapes or bytes do not make characters holds no text. -/
inductive Token where
  | leftBracket
  | rightBracket
  | leftBrace
  | rightBrace
  | comma
  | colon
  | null
  | bool (b : Bool)
  | number (n : Numeral)
  | string (s : Option String)
  | broken
deriving Repr, DecidableEq

/-- The digits at the start of a text, and the rest. -/
def scanDigits (cs : List Char) : List Char × List Char :=
  (cs.takeWhile Char.isDigit, cs.dropWhile Char.isDigit)

theorem length_scanDigits_snd_le (cs : List Char) : (scanDigits cs).2.length ≤ cs.length :=
  (List.dropWhile_sublist _).length_le

/-- The sign of an exponent: whether it is negative, and the rest. -/
def scanSign : List Char → Bool × List Char
  | '+' :: r => (false, r)
  | '-' :: r => (true, r)
  | r => (false, r)

theorem length_scanSign_snd_le (cs : List Char) : (scanSign cs).2.length ≤ cs.length := by
  fun_cases scanSign cs <;> simp

/-- The number that digits write. -/
def naturalOf (ds : List Char) : Nat :=
  ds.foldl (fun n c => n * 10 + digitValue c) 0

/-- An optional exponent after the digits of a numeral. The letter without digits is an error. -/
def scanExponent (cs : List Char) : Option (Option Int × List Char) :=
  match cs with
  | [] => some (none, [])
  | c :: r =>
    if c == 'e' || c == 'E' then
      let (negative, r) := scanSign r
      let (ds, r) := scanDigits r
      if ds.isEmpty then none
      else
        let n : Int := naturalOf ds
        some (some (if negative then -n else n), r)
    else some (none, c :: r)

/-- An optional fraction. The point without digits is an error. -/
def scanFraction : List Char → Option (List Char × List Char)
  | '.' :: r =>
    let (ds, r) := scanDigits r
    if ds.isEmpty then none else some (ds, r)
  | r => some ([], r)

/-- The digits before the point: a zero stands alone. -/
def scanWhole : List Char → Option (List Char × List Char)
  | [] => none
  | c :: r =>
    if c == '0' then some (['0'], r)
    else if c.isDigit then some (c :: (scanDigits r).1, (scanDigits r).2)
    else none

/-- A numeral without its sign. -/
def scanUnsigned (negative : Bool) (cs : List Char) : Option (Numeral × List Char) :=
  match scanWhole cs with
  | none => none
  | some (whole, r) =>
    match scanFraction r with
    | none => none
    | some (fraction, r) =>
      match scanExponent r with
      | none => none
      | some (exponent, r) => some (⟨negative, whole, fraction, exponent⟩, r)

theorem scanWhole_shorter {cs ds r : List Char} (h : scanWhole cs = some (ds, r)) :
    r.length < cs.length := by
  have hd := fun cs => length_scanDigits_snd_le cs
  fun_cases scanWhole cs <;> simp_all [scanWhole]
  grind

theorem scanFraction_le {cs ds r : List Char} (h : scanFraction cs = some (ds, r)) :
    r.length ≤ cs.length := by
  have hd := fun cs => length_scanDigits_snd_le cs
  fun_cases scanFraction cs <;> simp_all [scanFraction]
  grind

theorem scanExponent_le {cs r : List Char} {e : Option Int} (h : scanExponent cs = some (e, r)) :
    r.length ≤ cs.length := by
  have hd := fun cs => length_scanDigits_snd_le cs
  have hs := fun cs => length_scanSign_snd_le cs
  fun_cases scanExponent cs <;> simp_all [scanExponent]
  grind

theorem scanUnsigned_shorter {negative : Bool} {cs r : List Char} {n : Numeral}
    (h : scanUnsigned negative cs = some (n, r)) : r.length < cs.length := by
  unfold scanUnsigned at h
  split at h
  · simp at h
  · rename_i hw
    have := scanWhole_shorter hw
    split at h
    · simp at h
    · rename_i hf
      have := scanFraction_le hf
      split at h
      · simp at h
      · rename_i he
        have := scanExponent_le he
        simp only [Option.some.injEq, Prod.mk.injEq] at h
        obtain ⟨-, rfl⟩ := h
        omega

/-- White space between tokens. -/
def isSpace (c : Char) : Bool :=
  c == ' ' || c == '\n' || c == '\t' || c == '\r'

/-- A token that is one character. -/
def markOf? (c : Char) : Option Token :=
  if c == '[' then some .leftBracket
  else if c == ']' then some .rightBracket
  else if c == '\x7b' then some .leftBrace
  else if c == '\x7d' then some .rightBrace
  else if c == ',' then some .comma
  else if c == ':' then some .colon
  else none

/-- A token of more than one character that starts with `c`, and the rest. -/
def longToken? (coding : Coding) (c : Char) (r : List Char) : Option (Token × List Char) :=
  if c == '"' then (scanLiteral coding r).map fun (s, rest) => (.string s, rest)
  else if c == '-' then (scanUnsigned true r).map fun (n, rest) => (.number n, rest)
  else
    match c, r with
    | 'n', 'u' :: 'l' :: 'l' :: rest => some (.null, rest)
    | 't', 'r' :: 'u' :: 'e' :: rest => some (.bool true, rest)
    | 'f', 'a' :: 'l' :: 's' :: 'e' :: rest => some (.bool false, rest)
    | _, _ => (scanUnsigned false (c :: r)).map fun (n, rest) => (.number n, rest)

theorem longToken?_shorter {coding : Coding} {c : Char} {r rest : List Char} {t : Token}
    (h : longToken? coding c r = some (t, rest)) : rest.length < r.length + 1 := by
  unfold longToken? at h
  split at h
  · obtain ⟨⟨s, q⟩, hq, hp⟩ := Option.map_eq_some_iff.1 h
    simp only [Prod.mk.injEq] at hp
    obtain ⟨-, rfl⟩ := hp
    exact Nat.lt_succ_of_lt (scanLiteral_shorter hq)
  · split at h
    · obtain ⟨⟨s, q⟩, hq, hp⟩ := Option.map_eq_some_iff.1 h
      simp only [Prod.mk.injEq] at hp
      obtain ⟨-, rfl⟩ := hp
      exact Nat.lt_succ_of_lt (scanUnsigned_shorter hq)
    · split at h
      · simp_all; omega
      · simp_all; omega
      · simp_all; omega
      · obtain ⟨⟨s, q⟩, hq, hp⟩ := Option.map_eq_some_iff.1 h
        simp only [Prod.mk.injEq] at hp
        obtain ⟨-, rfl⟩ := hp
        simpa using scanUnsigned_shorter hq

/-- The tokens of a text. Literals make their texts by `coding`. -/
def tokens (coding : Coding) : List Char → List Token
  | [] => []
  | c :: r =>
    if isSpace c then tokens coding r
    else
      match markOf? c with
      | some t => t :: tokens coding r
      | none =>
        match _h : longToken? coding c r with
        | some (t, rest) => t :: tokens coding rest
        | none => [.broken]
termination_by cs => cs.length
decreasing_by
  · simp
  · simp
  · have := longToken?_shorter _h
    simpa using this

end Rekey.Json
