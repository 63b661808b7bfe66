import QueryLint.Text.Extend
import QueryLint.Text.Printable

/-!
# Escaped texts

The form in which a text is shown inside a message: between double quotes, with the quote, the
backslash and everything that would not show as a character of its own written as an escape.
-/

namespace QueryLint.Text

/-- The digits of a number in base sixteen, at least one of them, in small letters. -/
def hexDigits (n : Nat) : List Char :=
  Nat.toDigits 16 n

/-- One character of an escaped text. -/
def escapeChar (c : Char) : List Char :=
  if c = '\x00' then ['\\', '0']
  else if c = '\t' then ['\\', 't']
  else if c = '\r' then ['\\', 'r']
  else if c = '\n' then ['\\', 'n']
  else if c = '"' then ['\\', '"']
  else if c = '\\' then ['\\', '\\']
  else if isExtend c || !isPrintable c then
    ['\\', 'u', '\x7b'] ++ hexDigits c.toNat ++ ['\x7d']
  else [c]

/-- The escaped form of a text, with its quotes. -/
def escaped (text : String) : String :=
  String.ofList ('"' :: text.toList.flatMap escapeChar ++ ['"'])

/-- A list of texts in escaped form, between brackets. -/
def escapedList (texts : List String) : String :=
  "[" ++ String.intercalate ", " (texts.map escaped) ++ "]"

end QueryLint.Text
