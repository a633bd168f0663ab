/-!
# Ranges of characters

Properties of characters are given by tables: lists of inclusive ranges of code points, in ascending
order. A look-up stops at the first range that begins after the character.
-/

namespace NominalCheck

/-- Whether the code point lies in one of the ranges, which ascend. -/
def inRanges (code : Nat) : List (Nat × Nat) → Bool
  | [] => false
  | (first, last) :: ranges =>
    if code < first then false else decide (code ≤ last) || inRanges code ranges

/-- Whether the character lies between the two code points, both included. -/
def isBetween (first last : Nat) (c : Char) : Bool :=
  decide (first ≤ c.toNat) && decide (c.toNat ≤ last)

end NominalCheck
