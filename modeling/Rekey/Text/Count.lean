/-!
# Counts

A count is written in decimal digits, with a plus sign before them or none, and has a greatest
value. Reading stops at the first problem.
-/

namespace Rekey.Text

/-- Why a text is not a count. -/
inductive CountFault where
  | empty
  | notDigit
  | tooLarge
deriving DecidableEq, Repr, Inhabited

/-- The message of a fault. -/
def CountFault.message : CountFault → String
  | empty => "cannot parse integer from empty string"
  | notDigit => "invalid digit found in string"
  | tooLarge => "number too large to fit in target type"

/-- The number that digits write after the number that the digits before them wrote. -/
def countFrom (greatest n : Nat) : List Char → Except CountFault Nat
  | [] => .ok n
  | c :: r =>
    if c.isDigit then
      let next := n * 10 + (c.toNat - 0x30)
      if greatest < next then .error .tooLarge else countFrom greatest next r
    else .error .notDigit

/-- The count that a text writes. -/
def readCount (greatest : Nat) : List Char → Except CountFault Nat
  | [] => .error .empty
  | ['+'] => .error .notDigit
  | '+' :: r => countFrom greatest 0 r
  | cs => countFrom greatest 0 cs

end Rekey.Text
