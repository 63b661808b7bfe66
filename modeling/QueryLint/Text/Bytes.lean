/-!
# Bytes

Places in a text are counted in bytes. A character takes one to four of them.
-/

namespace QueryLint.Text

/-- The number of bytes of a text. -/
def byteCount (text : List Char) : Nat :=
  text.foldl (fun count c => count + c.utf8Size) 0

/-- A text cut behind the first so many bytes; a character that would be cut is in the first part. -/
def splitBytes : Nat → List Char → List Char × List Char
  | _, [] => ([], [])
  | n, c :: rest =>
    if n = 0 then ([], c :: rest)
    else
      let (before, behind) := splitBytes (n - c.utf8Size) rest
      (c :: before, behind)

end QueryLint.Text
