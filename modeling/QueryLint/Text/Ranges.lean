/-!
# Sets of characters as ranges

A character class of the Unicode standard is written down as a list of closed
intervals of code points, in increasing order. Membership is one linear search,
so that a statement about a class is a statement about its list.
-/

namespace QueryLint.Text

/-- A closed interval of code points. -/
abbrev Range := Nat × Nat

/-- Whether the code point lies in one of the intervals. -/
def inRanges (ranges : List Range) (code : Nat) : Bool :=
  ranges.any fun range => range.1 ≤ code && code ≤ range.2

end QueryLint.Text
