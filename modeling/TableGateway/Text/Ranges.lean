/-!
# Ranges of characters

A class of characters that no rule describes is given by a table of ranges of code points.
-/

namespace TableGateway.Text

/-- Ranges of code points, each given by its first and its last one. -/
abbrev Ranges :=
  List (Nat × Nat)

/-- Whether a character is in one of the ranges. -/
def Ranges.contains (ranges : Ranges) (c : Char) : Bool :=
  ranges.any fun (first, last) => first ≤ c.toNat && c.toNat ≤ last

end TableGateway.Text
