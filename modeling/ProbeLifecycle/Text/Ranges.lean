/-!
# Ranges of code points

Properties of characters are tables of ranges.  A table is ascending: every
range ends where or after it begins, and before the next one.
-/

namespace ProbeLifecycle.Text

/-- Ranges of code points, both ends included. -/
abbrev CodePointRanges := List (Nat × Nat)

def inRanges (ranges : CodePointRanges) (codePoint : Nat) : Bool :=
  ranges.any fun range => range.1 ≤ codePoint && codePoint ≤ range.2

def isAscendingFrom : Nat → CodePointRanges → Bool
  | _, [] => true
  | least, range :: ranges =>
      least ≤ range.1 && range.1 ≤ range.2 && isAscendingFrom (range.2 + 1) ranges

end ProbeLifecycle.Text
