/-!
# Ranges of code points

Character classes beyond ASCII are kept as lists of closed ranges of code points. A class is then
a table and this one membership test, so a class can be read off its table.
-/

namespace PointTable.Text

/-- The character's code point lies in one of the closed ranges. -/
def inRanges (ranges : List (Nat × Nat)) (c : Char) : Bool :=
  ranges.any fun range => range.1 ≤ c.toNat && c.toNat ≤ range.2

end PointTable.Text
