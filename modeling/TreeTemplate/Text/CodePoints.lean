/-!
# Sets of code points

A class of characters is a list of closed ranges of code points, in ascending order and apart from
each other. Membership walks the ranges and stops at the first one that lies above the character.
-/

namespace TreeTemplate.Text

/-- A set of characters, as closed ranges of code points in ascending order. -/
structure CodePoints where
  ranges : List (Nat × Nat)

/-- Whether a code point lies in one of the ranges, which are in ascending order. -/
def inRanges (n : Nat) : List (Nat × Nat) → Bool
  | [] => false
  | (first, last) :: above => if n < first then false else n ≤ last || inRanges n above

/-- Whether a character belongs to the set. -/
def CodePoints.contains (s : CodePoints) (c : Char) : Bool :=
  inRanges c.toNat s.ranges

end TreeTemplate.Text
