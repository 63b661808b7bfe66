import QueryLint.Toml.Gap

/-!
# Texts between quotes

There are four ways to write a text: between single or double quotes, and between three of either.
Only texts between double quotes have escapes; only those between three quotes go over several lines,
and a line end right behind the opening quotes does not belong to them.
-/

namespace QueryLint.Toml

open Reading

/-- A digit in base sixteen. -/
def hexValue? (c : Char) : Option Nat :=
  if c.isDigit then some (c.toNat - 48)
  else if 'a' ≤ c && c ≤ 'f' then some (c.toNat - 87)
  else if 'A' ≤ c && c ≤ 'F' then some (c.toNat - 55)
  else none

/-- The value of digits in base sixteen. -/
def hexValue (digits : List Char) : Nat :=
  digits.foldl (fun n c => 16 * n + (hexValue? c).getD 0) 0

/-- A character by its code, written in exactly so many digits. -/
def readCode (digits : Nat) (text : List Char) : Reading (Char × List Char) :=
  let found := (text.takeWhile fun c => (hexValue? c).isSome).take digits
  labelled ("unicode " ++ toString digits ++ "-digit hex code") (required (
    if found.length = digits then
      let n := hexValue found
      if n.isValidChar then .ok (Char.ofNat n, text.drop digits)
      else because "value is out of range" text
    else failAt text))

/-- What the letters behind a backslash stand for. -/
def escapes : List (Char × Char) :=
  [('b', '\x08'), ('f', '\x0c'), ('n', '\n'), ('r', '\r'), ('t', '\t'), ('\\', '\\'), ('"', '"')]

/-- What an escape stands for, its backslash and letter being passed. -/
def readEscape (letter : Char) (rest : List Char) : Reading (Char × List Char) :=
  match escapes.lookup letter with
  | some c => .ok (c, rest)
  | none =>
    if letter = 'u' then readCode 4 rest
    else if letter = 'U' then readCode 8 rest
    else
      let place := if letter.toNat < 128 then rest else letter :: rest
      expecting (["b", "f", "n", "r", "t", "u", "U", "\\", "\""].map ticked)
        (labelled "escape sequence" (required (failAt place)))

/-- A character that stands for itself between double quotes. -/
def isBasic (c : Char) : Bool := isShown c && c ≠ '"' && c ≠ '\\'

/-- A character that stands for itself between single quotes. -/
def isLiteral (c : Char) : Bool := isShown c && c ≠ '\''

/-- A text between double quotes, the opening one being passed. -/
def readBasic : Nat → List Char → Reading (List Char × List Char)
  | 0, text => failAt text
  | fuel + 1, text =>
    let unclosed : Reading (List Char × List Char) :=
      labelled "basic string" (required (failAt text))
    match text with
    | '"' :: rest => .ok ([], rest)
    | '\\' :: letter :: rest => do
      let (c, rest) ← readEscape letter rest
      let (cs, rest) ← readBasic fuel rest
      .ok (c :: cs, rest)
    | c :: rest =>
      if isBasic c then do
        let (cs, rest) ← readBasic fuel rest
        .ok (c :: cs, rest)
      else unclosed
    | [] => unclosed

/-- A text between single quotes, the opening one being passed. -/
def readLiteral (text : List Char) : Reading (List Char × List Char) :=
  match text.dropWhile isLiteral with
  | '\'' :: rest => .ok (text.takeWhile isLiteral, rest)
  | rest => labelled "literal string" (required (failAt rest))

/-- What follows a backslash that hides an end of line and all blank lines behind it. -/
def afterHiddenLine? (text : List Char) : Option (List Char) :=
  (afterNewline? (skipBlanks text)).map fun rest => skipLines (rest.length + 1) rest

/-- How a run of so many quotes inside a text between three of them is read: the number of quotes
that belong to the text, and whether the text ends behind them. -/
def quoteRun (count : Nat) : Nat × Bool :=
  if 3 ≤ count then (min (count - 3) 2, true) else (count, false)

/-- A text between three double quotes, the opening ones being passed. -/
def readLongBasic : Nat → List Char → Reading (List Char × List Char)
  | 0, text => failAt text
  | fuel + 1, text =>
    let unclosed : Reading (List Char × List Char) :=
      labelled "multiline basic string" (required (failAt text))
    let goOn (before rest : List Char) : Reading (List Char × List Char) := do
      let (cs, rest) ← readLongBasic fuel rest
      .ok (before ++ cs, rest)
    match text with
    | [] => unclosed
    | '"' :: _ =>
      let quotes := text.takeWhile (· = '"')
      let rest := text.dropWhile (· = '"')
      let (count, ends) := quoteRun quotes.length
      if ends then .ok (quotes.take count, text.drop (count + 3))
      else if rest.isEmpty then unclosed
      else goOn quotes rest
    | '\\' :: rest =>
      match afterHiddenLine? rest with
      | some rest => goOn [] rest
      | none =>
        match rest with
        | [] => unclosed
        | letter :: rest => do
          let (c, rest) ← readEscape letter rest
          goOn [c] rest
    | c :: rest =>
      match afterNewline? text with
      | some rest => goOn ['\n'] rest
      | none => if isBasic c then goOn [c] rest else unclosed

/-- A text between three single quotes, the opening ones being passed. -/
def readLongLiteral : Nat → List Char → Reading (List Char × List Char)
  | 0, text => failAt text
  | fuel + 1, text =>
    let unclosed : Reading (List Char × List Char) :=
      labelled "multiline literal string" (required (failAt text))
    let goOn (before rest : List Char) : Reading (List Char × List Char) := do
      let (cs, rest) ← readLongLiteral fuel rest
      .ok (before ++ cs, rest)
    match text with
    | [] => unclosed
    | '\'' :: _ =>
      let quotes := text.takeWhile (· = '\'')
      let rest := text.dropWhile (· = '\'')
      let (count, ends) := quoteRun quotes.length
      if ends then .ok (quotes.take count, text.drop (count + 3))
      else
        match rest with
        | [] => unclosed
        | c :: _ =>
          if isLiteral c || (afterNewline? rest).isSome then goOn quotes rest else unclosed
    | c :: rest =>
      match afterNewline? text with
      | some rest => goOn ['\n'] rest
      | none => if isLiteral c then goOn [c] rest else unclosed

/-- Drops an end of line right at the start. -/
def dropNewline (text : List Char) : List Char :=
  (afterNewline? text).getD text

/-- A text between quotes of any kind; none of them being passed. -/
def readText (text : List Char) : Reading (List Char × List Char) :=
  match text with
  | '"' :: '"' :: '"' :: rest => readLongBasic (rest.length + 1) (dropNewline rest)
  | '"' :: rest => readBasic (rest.length + 1) rest
  | '\'' :: '\'' :: '\'' :: rest => readLongLiteral (rest.length + 1) (dropNewline rest)
  | '\'' :: rest => readLiteral rest
  | _ => failAt text

end QueryLint.Toml
