import QueryLint.Mismatch
import QueryLint.Text.Bytes

/-!
# Faults of JSON texts

A fault is a reason and a place. The place is given by the number of bytes that follow it, which
the reader knows at every moment without counting what it has passed.
-/

namespace QueryLint.Json

/-- Why a text is not the JSON that was wanted. -/
inductive Reason
  | endInList
  | endInObject
  | endInString
  | endInValue
  | expectedColon
  | expectedListCommaOrEnd
  | expectedObjectCommaOrEnd
  | expectedIdent
  | expectedValue
  | invalidEscape
  | invalidNumber
  | numberOutOfRange
  | controlCharacter
  | keyMustBeString
  | loneSurrogate
  | endOfEscape
  | trailingComma
  | trailingCharacters
  | recursionLimit
  | mismatch (mismatch : Mismatch)
  deriving DecidableEq, Repr

/-- The text of a reason. -/
def Reason.message : Reason → String
  | .endInList => "EOF while parsing a list"
  | .endInObject => "EOF while parsing an object"
  | .endInString => "EOF while parsing a string"
  | .endInValue => "EOF while parsing a value"
  | .expectedColon => "expected \x60:\x60"
  | .expectedListCommaOrEnd => "expected \x60,\x60 or \x60]\x60"
  | .expectedObjectCommaOrEnd => "expected \x60,\x60 or \x60\x7d\x60"
  | .expectedIdent => "expected ident"
  | .expectedValue => "expected value"
  | .invalidEscape => "invalid escape"
  | .invalidNumber => "invalid number"
  | .numberOutOfRange => "number out of range"
  | .controlCharacter =>
    "control character (\\u0000-\\u001F) found while parsing a string"
  | .keyMustBeString => "key must be a string"
  | .loneSurrogate => "lone leading surrogate in hex escape"
  | .endOfEscape => "unexpected end of hex escape"
  | .trailingComma => "trailing comma"
  | .trailingCharacters => "trailing characters"
  | .recursionLimit => "recursion limit exceeded"
  | .mismatch m => m.message

/-- A reason and the number of bytes after the place where it was noticed. -/
structure Fault where
  reason : Reason
  left : Nat
  deriving DecidableEq, Repr

/-- A fault right before the rest of the text. -/
def failBefore {α : Type} (reason : Reason) (rest : List Char) : Except Fault α :=
  .error ⟨reason, Text.byteCount rest⟩

/-- A fault at the next byte of the rest of the text, or at its end. -/
def failAt {α : Type} (reason : Reason) (rest : List Char) : Except Fault α :=
  .error ⟨reason, Text.byteCount rest - 1⟩

/-- The line of a place, counted from one, and the number of bytes passed on that line. -/
def placeOf (text : List Char) (left : Nat) : Nat × Nat :=
  let rec go (line column passed : Nat) : List Char → Nat × Nat
    | [] => (line, column)
    | c :: rest =>
      if passed = 0 then (line, column)
      else if passed < c.utf8Size then (line, column + passed)
      else if c = '\n' then go (line + 1) 0 (passed - 1) rest
      else go line (column + c.utf8Size) (passed - c.utf8Size) rest
  go 1 0 (Text.byteCount text - left) text

/-- The text of a fault in the given text. -/
def Fault.message (fault : Fault) (text : List Char) : String :=
  let (line, column) := placeOf text fault.left
  fault.reason.message ++ " at line " ++ toString line ++ " column " ++ toString column

end QueryLint.Json
