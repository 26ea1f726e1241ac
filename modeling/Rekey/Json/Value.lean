import Rekey.Json.Number
import Rekey.Json.Quoted
import Rekey.Text.Cut

/-!
# JSON values and their written forms

A value with its object members in order, written compactly or with one member a line.
-/

namespace Rekey.Json

/-- A JSON value. Members of an object keep the order they are given in. -/
inductive Value where
  | null
  | bool (b : Bool)
  | number (n : Number)
  | string (s : String)
  | array (items : List Value)
  | object (members : List (String × Value))
deriving Inhabited, BEq, Repr

/-- A natural number as a JSON value. -/
def Value.nat (n : Nat) : Value :=
  .number (.integer n)

/-- A text that may be absent, written as the text or as null. -/
def Value.optional : Option String → Value
  | none => .null
  | some s => .string s

mutual
/-- The compact written form: no white space at all. -/
def Value.compactChars : Value → List Char
  | .null => ['n', 'u', 'l', 'l']
  | .bool true => ['t', 'r', 'u', 'e']
  | .bool false => ['f', 'a', 'l', 's', 'e']
  | .number n => n.chars
  | .string s => quotedChars s.toList
  | .array items => '[' :: Text.join [','] (compactItems items) ++ [']']
  | .object members => '\x7b' :: Text.join [','] (compactMembers members) ++ ['\x7d']
termination_by structural v => v
/-- The written items of an array. -/
def compactItems : List Value → List (List Char)
  | [] => []
  | v :: r => v.compactChars :: compactItems r
termination_by structural v => v
/-- The written members of an object. -/
def compactMembers : List (String × Value) → List (List Char)
  | [] => []
  | m :: r => compactMember m :: compactMembers r
termination_by structural v => v
/-- One written member. -/
def compactMember : String × Value → List Char
  | (k, v) => quotedChars k.toList ++ ':' :: v.compactChars
termination_by structural v => v
end

/-- The compact text of a value. -/
def Value.compact (v : Value) : String :=
  String.ofList v.compactChars

/-- A line break followed by the blanks of `depth` levels, two a level. -/
def indentation (depth : Nat) : List Char :=
  '\n' :: List.replicate (2 * depth) ' '

/-- Brackets around items that stand on lines of their own one level deeper than `depth`. -/
def bracketed (left right : Char) (depth : Nat) (items : List (List Char)) : List Char :=
  if items.isEmpty then [left, right]
  else
    left :: Text.join [','] (items.map (indentation (depth + 1) ++ ·)) ++
      indentation depth ++ [right]

mutual
/-- The written form with one item or member a line, for a value that stands at `depth`. -/
def Value.prettyChars (depth : Nat) : Value → List Char
  | .null => ['n', 'u', 'l', 'l']
  | .bool true => ['t', 'r', 'u', 'e']
  | .bool false => ['f', 'a', 'l', 's', 'e']
  | .number n => n.chars
  | .string s => quotedChars s.toList
  | .array items => bracketed '[' ']' depth (prettyItems (depth + 1) items)
  | .object members => bracketed '\x7b' '\x7d' depth (prettyMembers (depth + 1) members)
termination_by structural v => v
/-- The written items of an array. -/
def prettyItems (depth : Nat) : List Value → List (List Char)
  | [] => []
  | v :: r => v.prettyChars depth :: prettyItems depth r
termination_by structural v => v
/-- The written members of an object. -/
def prettyMembers (depth : Nat) : List (String × Value) → List (List Char)
  | [] => []
  | m :: r => prettyMember depth m :: prettyMembers depth r
termination_by structural v => v
/-- One written member. -/
def prettyMember (depth : Nat) : String × Value → List Char
  | (k, v) => quotedChars k.toList ++ ':' :: ' ' :: v.prettyChars depth
termination_by structural v => v
end

/-- The text of a value with one item or member a line. -/
def Value.pretty (v : Value) : String :=
  String.ofList (v.prettyChars 0)

end Rekey.Json
