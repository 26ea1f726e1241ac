/-!
# White space

The characters with the Unicode property White_Space, and trimming by them. A text is blank when
it holds nothing else; identifiers, tenants, emails and table names are all judged by this one
rule.
-/

namespace Rekey.Text

/-- Unicode White_Space. The zero-width space U+200B, the byte order mark U+FEFF and U+180E are
not in it. -/
def isBlank (c : Char) : Bool :=
  let n := c.toNat
  (9 ≤ n && n ≤ 13) || n == 0x20 || n == 0x85 || n == 0xA0 || n == 0x1680 ||
  (0x2000 ≤ n && n ≤ 0x200A) || n == 0x2028 || n == 0x2029 || n == 0x202F || n == 0x205F ||
  n == 0x3000

/-- The characters after the leading white space. -/
def trimStart (cs : List Char) : List Char :=
  cs.dropWhile isBlank

/-- The characters before the trailing white space. -/
def trimEnd (cs : List Char) : List Char :=
  (cs.reverse.dropWhile isBlank).reverse

/-- A character list without white space at either end. -/
def trimChars (cs : List Char) : List Char :=
  trimEnd (trimStart cs)

/-- A text without white space at either end. -/
def trim (s : String) : String :=
  String.ofList (trimChars s.toList)

/-- A text of white space only. -/
def isBlankText (s : String) : Bool :=
  s.toList.all isBlank

theorem trimStart_eq_nil_iff {cs : List Char} : trimStart cs = [] ↔ cs.all isBlank = true := by
  induction cs with
  | nil => simp [trimStart]
  | cons c r ih =>
    by_cases h : isBlank c = true <;> simp_all [trimStart]

theorem trimEnd_eq_nil_iff {cs : List Char} : trimEnd cs = [] ↔ cs.all isBlank = true := by
  have h : trimEnd cs = [] ↔ trimStart cs.reverse = [] := by simp [trimEnd, trimStart]
  rw [h, trimStart_eq_nil_iff, List.all_reverse]

end Rekey.Text
