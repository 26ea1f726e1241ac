/-!
# JSON string literals

Writing a text as a literal, and scanning a literal back. A scanned literal is a list of pieces,
because an escape names a UTF-16 unit and two units may make one character; a literal whose units
do not pair up is well formed but holds no text. Neither does one whose bytes are not UTF-8.
-/

namespace Rekey.Json

/-- A hexadecimal digit of a value below sixteen. -/
def hexDigit (n : Nat) : Char :=
  if n < 10 then Char.ofNat (0x30 + n) else Char.ofNat (0x61 + (n - 10))

/-- How one character is written in a literal. -/
def quotedChar (c : Char) : List Char :=
  if c == '"' then ['\\', '"']
  else if c == '\\' then ['\\', '\\']
  else if c == '\n' then ['\\', 'n']
  else if c == '\r' then ['\\', 'r']
  else if c == '\t' then ['\\', 't']
  else if c.toNat == 8 then ['\\', 'b']
  else if c.toNat == 12 then ['\\', 'f']
  else if c.toNat < 0x20 then
    ['\\', 'u', '0', '0', hexDigit (c.toNat / 16), hexDigit (c.toNat % 16)]
  else [c]

/-- A text as a literal, quotes included. -/
def quotedChars (cs : List Char) : List Char :=
  '"' :: cs.flatMap quotedChar ++ ['"']

/-- A piece of a literal: a character that stands for itself, or a UTF-16 unit from an escape. -/
inductive Piece where
  | char (c : Char)
  | unit (u : Nat)
deriving Repr, DecidableEq

/-- The value of a hexadecimal digit of either case. -/
def hexValue (c : Char) : Option Nat :=
  let n := c.toNat
  if 0x30 ≤ n && n ≤ 0x39 then some (n - 0x30)
  else if 0x61 ≤ n && n ≤ 0x66 then some (n - 0x61 + 10)
  else if 0x41 ≤ n && n ≤ 0x46 then some (n - 0x41 + 10)
  else none

/-- The number that four hexadecimal digits write. -/
def hexUnit (a b c d : Char) : Option Nat := do
  let a ← hexValue a
  let b ← hexValue b
  let c ← hexValue c
  let d ← hexValue d
  pure (((a * 16 + b) * 16 + c) * 16 + d)

/-- The character that a short escape stands for. -/
def shortEscape (c : Char) : Option Char :=
  if c == '"' then some '"'
  else if c == '\\' then some '\\'
  else if c == '/' then some '/'
  else if c == 'b' then some (Char.ofNat 8)
  else if c == 'f' then some (Char.ofNat 12)
  else if c == 'n' then some '\n'
  else if c == 'r' then some '\r'
  else if c == 't' then some '\t'
  else none

/-- The pieces of a literal after its opening quote, and the characters after its closing quote.
A control character, an unknown escape or the end of the text makes it no literal. -/
def scanPieces : List Char → Option (List Piece × List Char)
  | [] => none
  | '"' :: r => some ([], r)
  | '\\' :: 'u' :: a :: b :: c :: d :: r =>
    match hexUnit a b c d, scanPieces r with
    | some u, some (ps, rest) => some (.unit u :: ps, rest)
    | _, _ => none
  | '\\' :: e :: r =>
    match shortEscape e, scanPieces r with
    | some c, some (ps, rest) => some (.char c :: ps, rest)
    | _, _ => none
  | c :: r =>
    if c.toNat < 0x20 || c == '\\' then none
    else (scanPieces r).map fun (ps, rest) => (.char c :: ps, rest)

/-- Puts pieces together, each character that stands for itself by `plain` and each that units make
by `made`: a high unit must be followed at once by a low one, and a low unit must not stand alone. -/
def joinPieces {α : Type} (plain made : Char → α) : List Piece → Option (List α)
  | [] => some []
  | .char c :: r => (joinPieces plain made r).map (plain c :: ·)
  | .unit hi :: .unit lo :: r =>
    if 0xD800 ≤ hi && hi ≤ 0xDBFF then
      if 0xDC00 ≤ lo && lo ≤ 0xDFFF then
        (joinPieces plain made r).map
          (made (Char.ofNat (0x10000 + (hi - 0xD800) * 0x400 + (lo - 0xDC00))) :: ·)
      else none
    else if 0xDC00 ≤ hi && hi ≤ 0xDFFF then none
    else (joinPieces plain made (.unit lo :: r)).map (made (Char.ofNat hi) :: ·)
  | .unit u :: r =>
    if 0xD800 ≤ u && u ≤ 0xDFFF then none
    else (joinPieces plain made r).map (made (Char.ofNat u) :: ·)

/-- How the pieces of a literal make its text, if they make one. -/
abbrev Coding := List Piece → Option String

/-- The text of pieces that were scanned from characters. -/
def Coding.characters : Coding := fun ps =>
  (joinPieces id id ps).map String.ofList

/-- The text of pieces that were scanned from bytes, each byte as the character with its number.
Only here is it asked that bytes be UTF-8, so a literal that nobody reads may hold any. -/
def Coding.bytes : Coding := fun ps =>
  (joinPieces (fun c => [UInt8.ofNat c.toNat]) String.utf8EncodeChar ps).bind fun bytes =>
    String.fromUTF8? ⟨bytes.flatten.toArray⟩

/-- A literal after its opening quote: its text, if its pieces make one, and the rest. -/
def scanLiteral (coding : Coding) (cs : List Char) : Option (Option String × List Char) :=
  (scanPieces cs).map fun (ps, rest) => (coding ps, rest)

/-- What follows a literal is shorter than the literal with what follows it. -/
theorem scanPieces_shorter {cs : List Char} {ps : List Piece} {rest : List Char}
    (h : scanPieces cs = some (ps, rest)) : rest.length < cs.length := by
  fun_induction scanPieces cs generalizing ps rest with
  | case1 => simp at h
  | case2 r => simp_all
  | case3 a b c d r u qs q hq hu ih =>
    have := ih hq
    simp only [Option.some.injEq, Prod.mk.injEq] at h
    obtain ⟨-, rfl⟩ := h
    simp only [List.length_cons]
    omega
  | case4 => simp at h
  | case5 e r _ c qs q hq hc ih =>
    have := ih hq
    simp only [Option.some.injEq, Prod.mk.injEq] at h
    obtain ⟨-, rfl⟩ := h
    simp only [List.length_cons]
    omega
  | case6 => simp at h
  | case7 => simp at h
  | case8 c r _ _ _ _ ih =>
    obtain ⟨⟨qs, q⟩, hq, hp⟩ := Option.map_eq_some_iff.1 h
    have := ih hq
    simp only [Prod.mk.injEq] at hp
    obtain ⟨-, rfl⟩ := hp
    simp only [List.length_cons]
    omega

theorem scanLiteral_shorter {coding : Coding} {cs : List Char} {s : Option String}
    {rest : List Char} (h : scanLiteral coding cs = some (s, rest)) : rest.length < cs.length := by
  obtain ⟨⟨ps, q⟩, hq, hp⟩ := Option.map_eq_some_iff.1 h
  simp only [Prod.mk.injEq] at hp
  obtain ⟨-, rfl⟩ := hp
  exact scanPieces_shorter hq

end Rekey.Json
