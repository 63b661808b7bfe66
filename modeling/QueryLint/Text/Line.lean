/-!
# Lines

A text is cut at every newline; a carriage return before it stays with its line.
There is always at least one line, and a newline at the end opens an empty one.
-/

namespace QueryLint.Text

/-- The lines of a text, in order. -/
def lines : List Char → List (List Char)
  | [] => [[]]
  | c :: rest =>
    if c = '\n' then [] :: lines rest
    else match lines rest with
      | [] => [[c]]
      | line :: more => (c :: line) :: more

/-- The lines with their numbers, counted from one. -/
def numberedLines (text : List Char) : List (Nat × List Char) :=
  ((lines text).zipIdx 1).map fun (line, number) => (number, line)

end QueryLint.Text
