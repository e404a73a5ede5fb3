/-! Sets of characters given by ranges of code points. -/

namespace SearchLex.Text

/-- A set of code points: the ascending places where membership changes, beginning with
the first member. -/
structure Ranges where
  bounds : List Nat

/-- A character is in the set when an odd number of places lie at or before it. -/
def Ranges.contains (set : Ranges) (ch : Char) : Bool :=
  (set.bounds.takeWhile (· ≤ ch.toNat)).length % 2 == 1

end SearchLex.Text
