/-!
# Sets of code points

A set of code points is written as the ascending list of the places where it begins and ends.
-/

namespace Rekey.Text

/-- Membership in the set whose borders are `bounds`: a code point is inside after an odd number
of borders. -/
def inBounds (bounds : List Nat) (n : Nat) : Bool :=
  match bounds with
  | [] => false
  | b :: rest => if n < b then false else !inBounds rest n

end Rekey.Text
