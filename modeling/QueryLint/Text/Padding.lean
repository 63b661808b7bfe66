/-!
# Padding

Fixed columns of a listing: a text is filled up with one character to a width counted in
characters, and a longer text is left as it is.
-/

namespace QueryLint.Text

/-- Where the text stands in its column. -/
inductive Alignment
  | left
  | right
  | center
  deriving DecidableEq, Repr

/-- Fills the text up to the width; a centred text has the odd character after it. -/
def pad (alignment : Alignment) (filler : Char) (width : Nat) (text : List Char) : List Char :=
  let missing := width - text.length
  match alignment with
  | .left => text ++ List.replicate missing filler
  | .right => List.replicate missing filler ++ text
  | .center =>
    List.replicate (missing / 2) filler ++ text ++ List.replicate (missing - missing / 2) filler

end QueryLint.Text
