/-!
# Ranges of code points

Character properties are tables of ranges of code points in ascending order.
-/

namespace Outreach.Text

/-- The code points from `first` to `last`, both included. -/
structure CodeRange where
  /-- The first code point of the range. -/
  first : Nat
  /-- The last code point of the range. -/
  last : Nat

/-- Whether one of the ranges holds a character. -/
def CodeRange.anyHolds (ranges : List CodeRange) (c : Char) : Bool :=
  ranges.any (fun range => range.first <= c.toNat && c.toNat <= range.last)

end Outreach.Text
