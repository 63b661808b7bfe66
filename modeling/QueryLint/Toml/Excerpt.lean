import QueryLint.Toml.Document
import QueryLint.Toml.Failure

/-!
# Excerpts

How something that is wrong with a TOML text is shown: the line and the column, the line itself, marks
below what is meant, and the reason. Columns are characters, unless the column holds a character of
several bytes: then the bytes before it count. Marks stand for bytes, and there is at least one.
-/

namespace QueryLint.Toml

/-- A reason and the stretch of the text that it is about. -/
structure Fault where
  reason : String
  stretch : Stretch
  deriving DecidableEq, Repr

/-- The last of the lines of a text. -/
def lastLine (text : List Char) : List Char :=
  (text.reverse.takeWhile (· ≠ '\n')).reverse

/-- The line and the column, both counted from zero, of the place behind the first part of a text.
The end of a text belongs to the line of its last character. -/
def placeOf (passed following : List Char) : Nat × Nat :=
  match following with
  | c :: _ =>
    let line := lastLine passed
    (passed.count '\n', if c.utf8Size = 1 then line.length else Text.byteCount line)
  | [] =>
    match passed with
    | [] => (0, 0)
    | _ => (passed.dropLast.count '\n', (lastLine passed.dropLast).length + 1)

/-- The line of a text with a number counted from zero. -/
def lineAt : Nat → List Char → List Char
  | 0, text => text.takeWhile (· ≠ '\n')
  | n + 1, text => lineAt n ((text.dropWhile (· ≠ '\n')).drop 1)

/-- A fault of a text as it is shown. -/
def Fault.message (fault : Fault) (text : List Char) : String :=
  let start := Text.byteCount text - fault.stretch.start
  let (passed, following) := Text.splitBytes start text
  let (line, column) := placeOf passed following
  let content := lineAt line text
  let marks :=
    max 1 (min (fault.stretch.start - fault.stretch.stop) (Text.byteCount content - column))
  let number := toString (line + 1)
  let margin := String.ofList (List.replicate (number.length + 1) ' ')
  "TOML parse error at line " ++ number ++ ", column " ++ toString (column + 1) ++ "\n"
    ++ margin ++ "|\n" ++ number ++ " | " ++ String.ofList content ++ "\n"
    ++ margin ++ "|" ++ String.ofList (List.replicate (column + 1) ' ' ++ List.replicate marks '^')
    ++ "\n" ++ fault.reason ++ "\n"

/-- The fault of a failure: it is about the character that follows. -/
def Failure.fault (f : Failure) (text : List Char) : Fault :=
  let (_, following) := Text.splitBytes (Text.byteCount text - f.left) text
  let size := (following.head?.map Char.utf8Size).getD 0
  ⟨f.message, ⟨f.left, f.left - size⟩⟩

end QueryLint.Toml
