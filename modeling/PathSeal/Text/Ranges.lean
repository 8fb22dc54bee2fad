/-!
# PathSeal.Text.Ranges

Sets of characters as sorted tables of closed ranges of code points.
-/

namespace PathSeal.Text

/-- A set of characters: closed ranges of code points, in rising order. -/
abbrev Ranges := Array (Nat × Nat)

/-- Whether a character lies in one of the ranges. -/
def Ranges.contains (ranges : Ranges) (c : Char) : Bool :=
  ranges.any fun (first, last) => first ≤ c.toNat && c.toNat ≤ last

end PathSeal.Text
