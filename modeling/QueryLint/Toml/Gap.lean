import QueryLint.Toml.Failure

/-!
# Gaps

What stands between the parts of a TOML text: blanks, ends of lines, and comments. A comment goes to
the end of its line and holds no control character but the tab.
-/

namespace QueryLint.Toml

open Reading

/-- A blank within a line. -/
def isBlank (c : Char) : Bool := c = ' ' || c = '\t'

/-- Whether a character is none of the control characters but the tab. -/
def isShown (c : Char) : Bool := c = '\t' || (32 ≤ c.toNat && c.toNat ≠ 127)

/-- Skips blanks. -/
def skipBlanks (text : List Char) : List Char := text.dropWhile isBlank

/-- What follows the end of a line, if the text starts with one. -/
def afterNewline? : List Char → Option (List Char)
  | '\n' :: rest => some rest
  | '\r' :: '\n' :: rest => some rest
  | _ => none

/-- What follows a comment behind its sign. -/
def skipComment (text : List Char) : List Char := text.dropWhile isShown

/-- The end of a line or of the text. -/
def readLineEnd (text : List Char) : Reading (List Char) :=
  match text with
  | [] => .ok []
  | _ =>
    match afterNewline? text with
    | some rest => .ok rest
    | none => failAt text

/-- The rest of a line: blanks, a comment if there is one, and the end. -/
def readLineRest (text : List Char) : Reading (List Char) :=
  match skipBlanks text with
  | '#' :: rest => readLineEnd (skipComment rest)
  | rest => readLineEnd rest

/-- Skips blanks and ends of lines. -/
def skipLines : Nat → List Char → List Char
  | 0, text => text
  | fuel + 1, text =>
    match afterNewline? (skipBlanks text) with
    | some rest => skipLines fuel rest
    | none => skipBlanks text

/-- Skips blanks, ends of lines and comments that end with their lines. -/
def skipGap : Nat → List Char → Reading (List Char)
  | 0, text => .ok text
  | fuel + 1, text =>
    match skipBlanks text with
    | '#' :: rest =>
      match afterNewline? (skipComment rest) with
      | some rest => skipGap fuel rest
      | none => failAt (skipComment rest)
    | '\n' :: rest => skipGap fuel rest
    | '\r' :: rest =>
      match rest with
      | '\n' :: rest => skipGap fuel rest
      | _ => failAt rest
    | rest => .ok rest

end QueryLint.Toml
