import QueryLint.Issue
import QueryLint.Text.Blank
import QueryLint.Text.Digit

/-!
# Errors of reading

A message about a text that could not be read ends with the place of the error, if there is one:
`Line: 3, Column: 14`. A message may quote a part of the text that looks the same, so the last such
words count. Digits of any script are digits there, but only those of base ten make a number.
-/

namespace QueryLint

/-- Why a text could not be read as queries. -/
structure ParseError where
  message : String
  location : Option SourceRange := none
  deriving DecidableEq, Repr

namespace ParseError

/-- Places an error at one position. -/
def withLocation (e : ParseError) (start : Position) : ParseError :=
  { e with location := some ⟨start, start⟩ }

/-- What follows a text that another one starts with. -/
def after? : List Char → List Char → Option (List Char)
  | [], text => some text
  | _ :: _, [] => none
  | c :: opening, d :: text => if c = d then after? opening text else none

/-- The digits at the start of a text, at least one of them, and what follows them. -/
def digits? (text : List Char) : Option (List Char × List Char) :=
  let digits := text.takeWhile Text.isDecimalDigit
  if digits.isEmpty then none else some (digits, text.dropWhile Text.isDecimalDigit)

/-- The digits of the line and of the column, if the text starts with a place. -/
def place? (text : List Char) : Option (List Char × List Char) := do
  let (line, rest) ← digits? (← after? "Line: ".toList text)
  let (column, _) ← digits? (← after? ", Column: ".toList rest)
  return (line, column)

/-- The digits of the last place in a text. -/
def lastPlace? : List Char → Option (List Char × List Char)
  | [] => none
  | c :: rest =>
    match lastPlace? rest with
    | some place => some place
    | none => place? (c :: rest)

/-- The number that digits write, if it has at most 64 bits. -/
def word? (digits : List Char) : Option Nat :=
  (Text.decimalValue? digits).filter (· < 0x10000000000000000)

/-- The position that a message ends with. -/
def positionIn? (message : String) : Option Position := do
  let (line, column) ← lastPlace? message.toList
  Position.ofLocation? (← word? line) (← word? column)

/-- The error with a message; a blank message is replaced. -/
def ofMessage (message : String) : ParseError :=
  let message :=
    if (Text.trimBlanks message.toList).isEmpty then "Unknown parse error" else message
  match positionIn? message with
  | some start => ParseError.withLocation ⟨message, none⟩ start
  | none => ⟨message, none⟩

end ParseError

end QueryLint
