/-! Sets of characters given as ranges of code points. The tables that use them list only
characters above U+007F; the ASCII part of each set is a formula. -/

namespace WidgetLocator.Text

/-- Whether the code point of `c` lies in one of the ranges, ends included. -/
def inRanges (ranges : List (Nat × Nat)) (c : Char) : Bool :=
  ranges.any fun range => range.1 ≤ c.toNat && c.toNat ≤ range.2

end WidgetLocator.Text
