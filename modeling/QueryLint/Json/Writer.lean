import QueryLint.Decimal.Layout
import QueryLint.Json.Basic

/-!
# Written forms of JSON values

`Json.compact` puts no blank anywhere; `Json.pretty` puts every item on a line of its own, two
blanks deeper than its container, and an empty container on one line. A string keeps every
character but the quote, the backslash and the control characters below the blank.
-/

namespace QueryLint.Json

/-- One of the sixteen digits, in small letters. -/
def hexDigit (n : Nat) : Char :=
  Nat.digitChar (n % 16)

/-- One character of a written string. -/
def writeChar (c : Char) : List Char :=
  if c = '"' then ['\\', '"']
  else if c = '\\' then ['\\', '\\']
  else if c = '\x08' then ['\\', 'b']
  else if c = '\x0c' then ['\\', 'f']
  else if c = '\n' then ['\\', 'n']
  else if c = '\r' then ['\\', 'r']
  else if c = '\t' then ['\\', 't']
  else if c.toNat < 32 then ['\\', 'u', '0', '0', hexDigit (c.toNat / 16), hexDigit c.toNat]
  else [c]

/-- A string between its quotes. -/
def writeString (s : String) : List Char :=
  '"' :: s.toList.flatMap writeChar ++ ['"']

/-- A value that holds no other. -/
def writeScalar : Json → List Char
  | .bool true => ['t', 'r', 'u', 'e']
  | .bool false => ['f', 'a', 'l', 's', 'e']
  | .integer i => Decimal.integerDigits i
  | .float x => if x.isFinite then x.compact else ['n', 'u', 'l', 'l']
  | .string s => writeString s
  | _ => ['n', 'u', 'l', 'l']

mutual

/-- A value without blanks. -/
def write : Json → List Char
  | .array items => '[' :: writeItems items
  | .object members => '\x7b' :: writeMembers members
  | scalar => writeScalar scalar

/-- The items of an array and its closing bracket. -/
def writeItems : List Json → List Char
  | [] => [']']
  | [item] => write item ++ [']']
  | item :: rest => write item ++ ',' :: writeItems rest

/-- The members of an object and its closing brace. -/
def writeMembers : List (String × Json) → List Char
  | [] => ['\x7d']
  | [(name, value)] => writeString name ++ ':' :: write value ++ ['\x7d']
  | (name, value) :: rest => writeString name ++ ':' :: write value ++ ',' :: writeMembers rest

end

/-- The text of a value without blanks. -/
def compact (value : Json) : String :=
  String.ofList (write value)

/-- A new line at a depth of nesting. -/
def newline (depth : Nat) : List Char :=
  '\n' :: List.replicate (2 * depth) ' '

mutual

/-- A value laid out over lines, its items one level below `depth`. -/
def layOut (depth : Nat) : Json → List Char
  | .array [] => ['[', ']']
  | .array items => '[' :: layOutItems depth items
  | .object [] => ['\x7b', '\x7d']
  | .object members => '\x7b' :: layOutMembers depth members
  | scalar => writeScalar scalar

/-- The items of an array on lines of their own, and the line of its closing bracket. -/
def layOutItems (depth : Nat) : List Json → List Char
  | [] => newline depth ++ [']']
  | [item] => newline (depth + 1) ++ layOut (depth + 1) item ++ newline depth ++ [']']
  | item :: rest =>
    newline (depth + 1) ++ layOut (depth + 1) item ++ ',' :: layOutItems depth rest

/-- The members of an object on lines of their own, and the line of its closing brace. -/
def layOutMembers (depth : Nat) : List (String × Json) → List Char
  | [] => newline depth ++ ['\x7d']
  | [(name, value)] =>
    newline (depth + 1) ++ writeString name ++ ':' :: ' ' :: layOut (depth + 1) value
      ++ newline depth ++ ['\x7d']
  | (name, value) :: rest =>
    newline (depth + 1) ++ writeString name ++ ':' :: ' ' :: layOut (depth + 1) value
      ++ ',' :: layOutMembers depth rest

end

/-- The text of a value over several lines. -/
def pretty (value : Json) : String :=
  String.ofList (layOut 0 value)

end QueryLint.Json
