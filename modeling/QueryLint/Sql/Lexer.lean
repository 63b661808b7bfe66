import QueryLint.Dialect
import QueryLint.Sql.Token
import QueryLint.Text.Alphabetic
import QueryLint.Text.Blank
import QueryLint.Text.Digit

/-!
# From text to tokens

`lex` cuts a text into tokens and drops blanks and comments. What starts a word, which quotes there
are and where comments begin depends on the dialect. A literal, a quoted word or a comment that is
not closed ends the cutting with a message; its place is that of the opening quote, or the end of
the text for a comment.
-/

namespace QueryLint.Sql

open Text

/-- Whether the character lies beyond ASCII in the first plane. -/
def isBeyondAscii (c : Char) : Bool :=
  0x80 ≤ c.toNat && c.toNat ≤ 0xFFFF

/-- The characters that start a word. -/
def startsWord (dialect : Dialect) (c : Char) : Bool :=
  match dialect with
  | .mysql => c.isAlpha || c = '_' || c = '$' || c = '@' || isBeyondAscii c
  | .postgres => isAlphabetic c || c = '_'
  | .sqlite => c.isAlpha || c = '_' || c = '\x7f' || isBeyondAscii c
  | .generic => isAlphabetic c || c = '_' || c = '#' || c = '@'

/-- The characters that continue a word. -/
def continuesWord (dialect : Dialect) (c : Char) : Bool :=
  match dialect with
  | .mysql => startsWord .mysql c || c.isDigit
  | .postgres => isAlphabetic c || c.isDigit || c = '$' || c = '_'
  | .sqlite => startsWord .sqlite c || c.isDigit
  | .generic => isAlphabetic c || c.isDigit || c = '@' || c = '$' || c = '#' || c = '_'

/-- The quotes around words. -/
def quotesWord (dialect : Dialect) (c : Char) : Bool :=
  match dialect with
  | .mysql => c = '\x60'
  | .postgres => c = '"'
  | .sqlite => c = '\x60' || c = '"' || c = '['
  | .generic => c = '\x60' || c = '"'

/-- Whether a backslash in a literal takes the next character with it. -/
def escapesByBackslash (dialect : Dialect) : Bool :=
  dialect == .mysql

/-- The characters that make up operators which are not built in. -/
def continuesOperator (dialect : Dialect) (c : Char) : Bool :=
  dialect == .postgres
    && ['+', '-', '*', '/', '<', '>', '=', '~', '!', '@', '#', '%', '^', '&', '|', '\x60',
      '?'].contains c

/-- The capital form of a letter as far as keywords are concerned: the few letters beyond ASCII
whose capitals are ASCII letters count as those. -/
def keywordLetters (c : Char) : List Char :=
  if c.toNat < 128 then [c.toUpper]
  else match c with
    | 'ſ' => ['S']
    | 'ı' => ['I']
    | 'ß' => ['S', 'S']
    | 'ﬀ' => ['F', 'F']
    | 'ﬁ' => ['F', 'I']
    | 'ﬂ' => ['F', 'L']
    | 'ﬃ' => ['F', 'F', 'I']
    | 'ﬄ' => ['F', 'F', 'L']
    | 'ﬅ' => ['S', 'T']
    | 'ﬆ' => ['S', 'T']
    | c => [c]

/-- The keyword that the letters of a word spell. -/
def keywordOf (letters : List Char) : String :=
  String.ofList (letters.flatMap keywordLetters)

/-- A word without quotes. -/
def plainWord (letters : List Char) : Token :=
  .word (String.ofList letters) none (keywordOf letters)

/-- What is wrong with a text, and what follows the place. -/
structure LexFault where
  message : String
  rest : List Char

/-- What cutting off one token gives: the token, unless it is dropped, and the rest. -/
abbrev Cut := Except LexFault (Option Token × List Char)

/-- A token of the given symbol, already passed. -/
def Cut.symbol (text : String) (rest : List Char) : Cut :=
  .ok (some (.symbol text), rest)

/-- A symbol that may go on as an operator which is not built in. -/
def operator (dialect : Dialect) (text : String) (rest : List Char) : Cut :=
  match rest.takeWhile (continuesOperator dialect) with
  | [] => Cut.symbol text rest
  | more =>
    .ok (some (.customOperator (text ++ String.ofList more)),
      rest.dropWhile (continuesOperator dialect))

/-- The character that a backslash and a letter stand for. -/
def backslashed (c : Char) : Char :=
  match c with
  | '0' => '\x00'
  | 'a' => '\x07'
  | 'b' => '\x08'
  | 'f' => '\x0c'
  | 'n' => '\n'
  | 'r' => '\r'
  | 't' => '\t'
  | 'Z' => '\x1a'
  | c => c

/-- The text up to a closing quote, a doubled quote standing for one. -/
def quotedText? (quote : Char) (backslash : Bool) : List Char → Option (List Char × List Char)
  | [] => none
  | [c] => if c = quote then some ([], []) else none
  | c :: d :: rest =>
    if c = quote then
      if d = quote then (quotedText? quote backslash rest).map fun (s, r) => (quote :: s, r)
      else some ([], d :: rest)
    else if c = '\\' && backslash then
      (quotedText? quote backslash rest).map fun (s, r) => (backslashed d :: s, r)
    else (quotedText? quote backslash (d :: rest)).map fun (s, r) => (c :: s, r)

/-- A literal whose opening quote the text starts with. -/
def literal (kind : QuotedKind) (quote : Char) (backslash : Bool) (text : List Char) : Cut :=
  match quotedText? quote backslash (text.drop 1) with
  | some (s, rest) => .ok (some (.quoted kind (String.ofList s)), rest)
  | none => .error ⟨"Unterminated string literal", text⟩

/-- The text of a literal with escapes, up to its closing quote. -/
def escapedText? : List Char → Option (List Char × List Char)
  | [] => none
  | [c] => if c = '\'' then some ([], []) else none
  | c :: d :: rest =>
    if c = '\'' then
      if d = '\'' then (escapedText? rest).map fun (s, r) => ('\'' :: s, r)
      else some ([], d :: rest)
    else if c = '\\' then
      let e := if ['b', 'f', 'n', 'r', 't'].contains d then backslashed d else d
      (escapedText? rest).map fun (s, r) => (e :: s, r)
    else (escapedText? (d :: rest)).map fun (s, r) => (c :: s, r)

/-- A literal with escapes, the text starting before its quote. -/
def escapedLiteral (start text : List Char) : Cut :=
  match escapedText? (text.drop 1) with
  | some (s, rest) => .ok (some (.quoted .escape (String.ofList s)), rest)
  | none => .error ⟨"Unterminated encoded string literal", start⟩

/-- A word between quotes, the text starting with the opening one. -/
def quotedWord (quote : Char) (text : List Char) : Cut :=
  let closing := closingQuote quote
  match quotedText? closing false (text.drop 1) with
  | some (s, rest) => .ok (some (.word (String.ofList s) (some quote) ""), rest)
  | none =>
    .error ⟨"Expected close delimiter '" ++ closing.toString ++ "' before EOF.", text⟩

/-- A word that the first characters belong to whatever they are. -/
def wordFrom (dialect : Dialect) (first rest : List Char) : Cut :=
  let letters := first ++ rest.takeWhile (continuesWord dialect)
  let rest := rest.dropWhile (continuesWord dialect)
  let isNumeric (c : Char) : Bool := c.isDigit || c = '.'
  if letters.all isNumeric then
    .ok (some (.number (String.ofList (letters ++ rest.takeWhile isNumeric)) false),
      rest.dropWhile isNumeric)
  else .ok (some (plainWord letters), rest)

/-- The rest of a line after the start of a comment. -/
def lineComment (dialect : Dialect) (rest : List Char) : Cut :=
  let isEnd (c : Char) : Bool := c = '\n' || (c = '\r' && dialect == .postgres)
  .ok (none, (rest.dropWhile fun c => !isEnd c).drop 1)

/-- The rest of a comment that may hold others, `last` being the character before. -/
def blockComment (depth : Nat) (last : Char) : List Char → Cut
  | [] => .error ⟨"Unexpected EOF while in a multi-line comment", []⟩
  | c :: rest =>
    if last = '/' && c = '*' then blockComment (depth + 1) c rest
    else if last = '*' && c = '/' then
      match depth with
      | 0 => .ok (none, rest)
      | depth + 1 => blockComment depth c rest
    else blockComment depth c rest

/-- Whether the character is a digit in base sixteen. -/
def isHexDigit (c : Char) : Bool :=
  c.isDigit || ('a' ≤ c && c ≤ 'f') || ('A' ≤ c && c ≤ 'F')

/-- The exponent that a text starts with, which needs a digit. -/
def exponentOf (text : List Char) : List Char :=
  match text with
  | e :: rest =>
    if e = 'e' || e = 'E' then
      let (sign, rest) := match rest with
        | '+' :: rest => (['+'], rest)
        | '-' :: rest => (['-'], rest)
        | _ => ([], rest)
      match rest.takeWhile Char.isDigit with
      | [] => []
      | digits => e :: sign ++ digits
    else []
  | [] => []

/-- A number, a point, or in some dialects a word that starts with digits. -/
def number (dialect : Dialect) (text : List Char) : Cut :=
  let whole := text.takeWhile Char.isDigit
  let rest := text.dropWhile Char.isDigit
  match whole, rest with
  | ['0'], 'x' :: digits =>
    .ok (some (.quoted .hex (String.ofList (digits.takeWhile isHexDigit))),
      digits.dropWhile isHexDigit)
  | _, _ =>
    let (point, rest) := match rest with
      | '.' :: rest => (['.'], rest)
      | _ => ([], rest)
    let mantissa := whole ++ point ++ rest.takeWhile Char.isDigit
    let rest := rest.dropWhile Char.isDigit
    if mantissa = ['.'] then Cut.symbol "." rest
    else
      let exponent := exponentOf rest
      let letters := rest.takeWhile (continuesWord dialect)
      let mayContinue := match rest with
        | c :: _ => c != 'e' && c != 'E'
        | [] => false
      if dialect == .mysql && mayContinue && !letters.isEmpty then
        .ok (some (plainWord (mantissa ++ letters)), rest.dropWhile (continuesWord dialect))
      else
        let digits := String.ofList (mantissa ++ exponent)
        match rest.drop exponent.length with
        | 'L' :: rest => .ok (some (.number digits true), rest)
        | rest => .ok (some (.number digits false), rest)

/-- The text between two pairs of dollar signs. A single one inside it stands for itself. -/
def dollarText? (last : Bool) : List Char → Option (List Char × List Char)
  | [] => none
  | c :: rest =>
    if last then
      if c = '$' then some ([], rest)
      else (dollarText? false rest).map fun (s, r) => ('$' :: c :: s, r)
    else if c = '$' then dollarText? true rest
    else (dollarText? false rest).map fun (s, r) => (c :: s, r)

/-- The text up to a tag between dollar signs. -/
def taggedText? (closing : List Char) : List Char → Option (List Char × List Char)
  | [] => none
  | c :: rest =>
    if closing.isPrefixOf (c :: rest) then some ([], (c :: rest).drop closing.length)
    else (taggedText? closing rest).map fun (s, r) => (c :: s, r)

/-- What a dollar sign starts. -/
def dollar (rest : List Char) : Cut :=
  match rest with
  | '$' :: text =>
    match dollarText? false text with
    | some (s, rest) => .ok (some (.dollarQuoted "" (String.ofList s)), rest)
    | none => .error ⟨"Unterminated dollar-quoted string", []⟩
  | _ =>
    let isName (c : Char) : Bool := isAlphabetic c || isDecimalDigit c || c = '_'
    let tag := rest.takeWhile isName
    match rest.dropWhile isName with
    | '$' :: text =>
      match taggedText? ('$' :: tag ++ ['$']) text with
      | some (s, rest) => .ok (some (.dollarQuoted (String.ofList tag) (String.ofList s)), rest)
      | none => .error ⟨"Unterminated dollar-quoted, expected $", []⟩
    | rest => .ok (some (.placeholder (String.ofList ('$' :: tag))), rest)

/-- What an at sign starts. -/
def atSign (dialect : Dialect) (rest : List Char) : Cut :=
  match rest with
  | '>' :: rest => Cut.symbol "@>" rest
  | '?' :: rest => Cut.symbol "@?" rest
  | '@' :: rest =>
    match rest with
    | [] => Cut.symbol "@@" rest
    | ' ' :: _ => Cut.symbol "@@" rest
    | c :: more =>
      if startsWord dialect '@' then wordFrom dialect ['@', '@', c] more else Cut.symbol "@@" rest
  | [] => Cut.symbol "@" rest
  | c :: more =>
    if c = ' ' || c = '\'' || c = '"' || c = '\x60' then Cut.symbol "@" rest
    else if startsWord dialect '@' then wordFrom dialect ['@', c] more
    else Cut.symbol "@" rest

/-- What a number sign starts where it is not a comment. -/
def numberSign (dialect : Dialect) (rest : List Char) : Cut :=
  match rest with
  | '-' :: rest => operator dialect "#-" rest
  | '>' :: '>' :: rest => operator dialect "#>>" rest
  | '>' :: rest => operator dialect "#>" rest
  | [] => operator dialect "#" rest
  | ' ' :: _ => Cut.symbol "#" rest
  | c :: more =>
    if startsWord dialect '#' then wordFrom dialect ['#', c] more else operator dialect "#" rest

/-- Punctuation and operators, given their first character. -/
def punctuation? (dialect : Dialect) (c : Char) (rest : List Char) : Option Cut :=
  match c, rest with
  | '(', _ => some (Cut.symbol "(" rest)
  | ')', _ => some (Cut.symbol ")" rest)
  | ',', _ => some (Cut.symbol "," rest)
  | '-', '-' :: rest => some (lineComment dialect rest)
  | '-', '>' :: '>' :: rest => some (operator dialect "->>" rest)
  | '-', '>' :: rest => some (operator dialect "->" rest)
  | '-', _ => some (operator dialect "-" rest)
  | '/', '*' :: rest => some (blockComment 0 ' ' rest)
  | '/', '/' :: more =>
    some (if dialect == .generic then Cut.symbol "//" more else Cut.symbol "/" rest)
  | '/', _ => some (Cut.symbol "/" rest)
  | '+', _ => some (Cut.symbol "+" rest)
  | '*', _ => some (Cut.symbol "*" rest)
  | '%', d :: _ => some (if isBlank d then Cut.symbol "%" rest else operator dialect "%" rest)
  | '%', [] => some (Cut.symbol "%" rest)
  | '|', '/' :: rest => some (operator dialect "|/" rest)
  | '|', '|' :: '/' :: rest => some (operator dialect "||/" rest)
  | '|', '|' :: rest => some (operator dialect "||" rest)
  | '|', _ => some (operator dialect "|" rest)
  | '=', '>' :: rest => some (Cut.symbol "=>" rest)
  | '=', '=' :: rest => some (Cut.symbol "==" rest)
  | '=', _ => some (Cut.symbol "=" rest)
  | '!', '=' :: rest => some (Cut.symbol "<>" rest)
  | '!', '!' :: rest => some (Cut.symbol "!!" rest)
  | '!', '~' :: '*' :: rest => some (Cut.symbol "!~*" rest)
  | '!', '~' :: '~' :: '*' :: rest => some (Cut.symbol "!~~*" rest)
  | '!', '~' :: '~' :: rest => some (Cut.symbol "!~~" rest)
  | '!', '~' :: rest => some (Cut.symbol "!~" rest)
  | '!', _ => some (Cut.symbol "!" rest)
  | '<', '=' :: '>' :: rest => some (operator dialect "<=>" rest)
  | '<', '=' :: rest => some (operator dialect "<=" rest)
  | '<', '>' :: rest => some (operator dialect "<>" rest)
  | '<', '<' :: rest => some (operator dialect "<<" rest)
  | '<', '@' :: rest => some (operator dialect "<@" rest)
  | '<', _ => some (operator dialect "<" rest)
  | '>', '=' :: rest => some (operator dialect ">=" rest)
  | '>', '>' :: rest => some (operator dialect ">>" rest)
  | '>', _ => some (operator dialect ">" rest)
  | ':', ':' :: rest => some (Cut.symbol "::" rest)
  | ':', '=' :: rest => some (Cut.symbol ":=" rest)
  | ':', _ => some (Cut.symbol ":" rest)
  | ';', _ => some (Cut.symbol ";" rest)
  | '\\', _ => some (Cut.symbol "\\" rest)
  | '[', _ => some (Cut.symbol "[" rest)
  | ']', _ => some (Cut.symbol "]" rest)
  | '&', '&' :: rest => some (operator dialect "&&" rest)
  | '&', _ => some (operator dialect "&" rest)
  | '^', '@' :: rest => some (Cut.symbol "^@" rest)
  | '^', _ => some (Cut.symbol "^" rest)
  | '\x7b', _ => some (Cut.symbol "\x7b" rest)
  | '\x7d', _ => some (Cut.symbol "\x7d" rest)
  | '#', _ =>
    some (if dialect == .mysql then lineComment dialect rest else numberSign dialect rest)
  | '~', '*' :: rest => some (operator dialect "~*" rest)
  | '~', '~' :: '*' :: rest => some (operator dialect "~~*" rest)
  | '~', '~' :: rest => some (operator dialect "~~" rest)
  | '~', _ => some (operator dialect "~" rest)
  | '@', _ => some (atSign dialect rest)
  | '?', _ =>
    some (if dialect == .postgres then
      match rest with
      | '|' :: rest => Cut.symbol "?|" rest
      | '&' :: rest => Cut.symbol "?&" rest
      | _ => Cut.symbol "?" rest
    else
      .ok (some (.placeholder (String.ofList ('?' :: rest.takeWhile isDecimalDigit))),
        rest.dropWhile isDecimalDigit))
  | _, _ => none

/-- A literal that a letter before its quote announces, given that letter and the rest. -/
def announced? (dialect : Dialect) (c : Char) (rest : List Char) : Option Cut :=
  match c.toUpper, rest with
  | 'N', '\'' :: _ => some (literal .national '\'' (escapesByBackslash dialect) rest)
  | 'X', '\'' :: _ => some (literal .hex '\'' true rest)
  | 'E', '\'' :: _ => some (escapedLiteral (c :: rest) rest)
  | 'B', '\'' :: _ =>
    if dialect == .generic then some (literal .singleBytes '\'' false rest) else none
  | 'B', '"' :: _ =>
    if dialect == .generic then some (literal .doubleBytes '"' false rest) else none
  | 'R', '\'' :: _ =>
    if dialect == .generic then some (literal .singleRaw '\'' false rest) else none
  | 'R', '"' :: _ =>
    if dialect == .generic then some (literal .doubleRaw '"' false rest) else none
  | _, _ => none

/-- Cuts the first token off a text that is not empty; `afterWord` says whether the token before is
a word. -/
def cut (dialect : Dialect) (afterWord : Bool) (c : Char) (rest : List Char) : Cut :=
  if c = ' ' || c = '\t' || c = '\n' || c = '\r' then .ok (none, rest)
  else match announced? dialect c rest with
  | some result => result
  | none =>
    if c = '\'' then literal .single '\'' (escapesByBackslash dialect) (c :: rest)
    else if quotesWord dialect c then quotedWord c (c :: rest)
    else if c = '"' then literal .double '"' (escapesByBackslash dialect) (c :: rest)
    else if c = '.' && rest.head? = some '_' then
      if afterWord then Cut.symbol "." rest else .error ⟨"Unexpected character '_'", c :: rest⟩
    else if c.isDigit || c = '.' then number dialect (c :: rest)
    else match punctuation? dialect c rest with
    | some result => result
    | none =>
      if startsWord dialect c then wordFrom dialect [c] rest
      else if c = '$' then dollar rest
      else if isBlank c then .ok (none, rest)
      else .ok (some (.char c), rest)

/-- The place after some characters. -/
def Location.after (l : Location) : List Char → Location
  | [] => l
  | c :: rest =>
    Location.after (if c = '\n' then ⟨l.line + 1, 1⟩ else ⟨l.line, l.column + 1⟩) rest

/-- Cuts a text into tokens, from a place on. `fuel` bounds the number of cuts. -/
def lexFrom (dialect : Dialect) : Nat → Bool → Location → List Char → Except String (List Located)
  | 0, _, _, _ => .ok []
  | _, _, _, [] => .ok []
  | fuel + 1, afterWord, start, c :: rest =>
    match cut dialect afterWord c rest with
    | .error fault =>
      let passed := (c :: rest).take (rest.length + 1 - fault.rest.length)
      .error (fault.message ++ (start.after passed).suffix)
    | .ok (token, more) =>
      let stop := start.after ((c :: rest).take (rest.length + 1 - more.length))
      match token with
      | none => lexFrom dialect fuel false stop more
      | some token => do
        let isWord := match token with
          | .word .. => true
          | _ => false
        let tokens ← lexFrom dialect fuel isWord stop more
        .ok (⟨token, ⟨start, stop⟩⟩ :: tokens)

/-- The tokens of a text. -/
def lex (dialect : Dialect) (text : List Char) : Except String (List Located) :=
  lexFrom dialect (text.length + 1) false ⟨1, 1⟩ text

end QueryLint.Sql
