import ForeignCall.Text

/-!
# Sets of characters

A set of code points is written as the increasing list of its boundaries: it holds the points from
the first boundary up to the second, from the third up to the fourth, and so on.
-/

namespace ForeignCall

/-- A set of code points, given by its boundaries. -/
structure CharSet where
  boundaries : List Nat

namespace CharSet

/-- Walks along the boundaries; `inside` says whether the points before the next one belong. -/
def holds (n : Nat) (inside : Bool) : List Nat → Bool
  | [] => inside
  | b :: rest => if n < b then inside else holds n (!inside) rest

def contains (s : CharSet) (c : Char) : Bool := holds c.toNat false s.boundaries

end CharSet
end ForeignCall
