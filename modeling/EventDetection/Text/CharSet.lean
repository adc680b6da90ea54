/-!
# Sets of characters

Classes of characters are given by the ranges of their code points, as the
Unicode character database lists them.
-/

namespace EventDetection.Text

/-- A set of characters: ranges of code points, both ends included. -/
structure CharSet where
  ranges : List (Nat × Nat)

/-- Whether a character lies in one of the ranges. -/
def CharSet.contains (s : CharSet) (c : Char) : Bool :=
  s.ranges.any fun r => r.1 ≤ c.toNat && c.toNat ≤ r.2

end EventDetection.Text
