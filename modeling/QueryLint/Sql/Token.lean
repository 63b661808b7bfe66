import QueryLint.Text.Escaped

/-!
# Tokens of SQL

A token is a word, a literal or a symbol, together with the stretch of text that it covers. Lines and
columns are counted from one, a column being a character; line zero stands for a place that is not
known. A word that is not quoted also carries the capitals of its letters, by which keywords are
recognised.
-/

namespace QueryLint.Sql

/-- A line and a column, or a place that is not known when the line is zero. -/
structure Location where
  line : Nat
  column : Nat
  deriving DecidableEq, Repr, Inhabited

/-- The place that is not known. -/
def Location.unknown : Location := ⟨0, 0⟩

/-- How a place is added to a message; one that is not known adds nothing. -/
def Location.suffix (l : Location) : String :=
  if l.line = 0 then ""
  else " at Line: " ++ toString l.line ++ ", Column: " ++ toString l.column

/-- A stretch of text, from its first character to the one after its last. -/
structure Span where
  start : Location
  stop : Location
  deriving DecidableEq, Repr, Inhabited

/-- The span of the end of the text. -/
def Span.unknown : Span := ⟨Location.unknown, Location.unknown⟩

/-- The span from the start of one to the end of another. -/
def Span.through (first last : Span) : Span := ⟨first.start, last.stop⟩

/-- The kinds of literal that are written between quotes. -/
inductive QuotedKind
  /-- A text between single quotes. -/
  | single
  /-- A text between double quotes. -/
  | double
  /-- A text with an `N` before it. -/
  | national
  /-- Digits in base sixteen. -/
  | hex
  /-- A text with an `E` before it. -/
  | escape
  /-- Bytes between single quotes. -/
  | singleBytes
  /-- Bytes between double quotes. -/
  | doubleBytes
  /-- A text with an `R` before it, between single quotes. -/
  | singleRaw
  /-- A text with an `R` before it, between double quotes. -/
  | doubleRaw
  deriving DecidableEq, Repr

/-- A token of SQL. -/
inductive Token
  /-- A word: its text, its quote, and the keyword that it may be. -/
  | word (text : String) (quote : Option Char) (keyword : String)
  /-- A number, with a mark where an `L` follows it. -/
  | number (text : String) (long : Bool)
  /-- A literal between quotes. -/
  | quoted (kind : QuotedKind) (text : String)
  /-- A text between dollar signs, which may hold a tag. -/
  | dollarQuoted (tag : String) (text : String)
  /-- A parameter that is filled in later. -/
  | placeholder (text : String)
  /-- Punctuation or an operator. -/
  | symbol (text : String)
  /-- An operator that is not built in. -/
  | customOperator (text : String)
  /-- A character that starts no other token. -/
  | char (c : Char)
  /-- The end of the text. -/
  | eof
  deriving DecidableEq, Repr, Inhabited

/-- The quote that closes a quoted word. -/
def closingQuote (quote : Char) : Char :=
  if quote = '[' then ']' else quote

/-- The spelling of a literal between quotes. -/
def QuotedKind.spell (kind : QuotedKind) (text : String) : String :=
  match kind with
  | single => "'" ++ text ++ "'"
  | double => "\"" ++ text ++ "\""
  | national => "N'" ++ text ++ "'"
  | hex => "X'" ++ text ++ "'"
  | escape => "E'" ++ text ++ "'"
  | singleBytes => "B'" ++ text ++ "'"
  | doubleBytes => "B\"" ++ text ++ "\""
  | singleRaw => "R'" ++ text ++ "'"
  | doubleRaw => "R\"" ++ text ++ "\""

/-- The spelling of a token in messages. -/
def Token.spell : Token → String
  | word text none _ => text
  | word text (some q) _ => q.toString ++ text ++ (closingQuote q).toString
  | number text long => if long then text ++ "L" else text
  | quoted kind text => kind.spell text
  | dollarQuoted tag text => "$" ++ tag ++ "$" ++ text ++ "$" ++ tag ++ "$"
  | placeholder text => text
  | symbol text => text
  | customOperator text => text
  | char c => c.toString
  | eof => "EOF"

/-- A token with the stretch that it covers. -/
structure Located where
  token : Token
  span : Span
  deriving Repr, Inhabited

/-- What stands at the end of every text. -/
def Located.eof : Located := ⟨.eof, Span.unknown⟩

/-- The names of symbols by which messages call them. -/
def symbolNames : List (String × String) :=
  [("=", "Eq"), ("==", "DoubleEq"), ("<>", "Neq"), ("<", "Lt"), (">", "Gt"), ("<=", "LtEq"),
    (">=", "GtEq"), ("<=>", "Spaceship"), ("+", "Plus"), ("-", "Minus"), ("*", "Mul"),
    ("/", "Div"), ("//", "DuckIntDiv"), ("%", "Mod"), ("||", "StringConcat"), ("(", "LParen"),
    (")", "RParen"), (".", "Period"), (",", "Comma"), (":", "Colon"), ("::", "DoubleColon"),
    (":=", "Assignment"), (";", "SemiColon"), ("\\", "Backslash"), ("[", "LBracket"),
    ("]", "RBracket"), ("&", "Ampersand"), ("|", "Pipe"), ("^", "Caret"), ("\x7b", "LBrace"),
    ("\x7d", "RBrace"), ("=>", "RArrow"), ("#", "Sharp"), ("~", "Tilde"),
    ("~*", "TildeAsterisk"), ("!~", "ExclamationMarkTilde"),
    ("!~*", "ExclamationMarkTildeAsterisk"), ("~~", "DoubleTilde"),
    ("~~*", "DoubleTildeAsterisk"), ("!~~", "ExclamationMarkDoubleTilde"),
    ("!~~*", "ExclamationMarkDoubleTildeAsterisk"), ("<<", "ShiftLeft"), (">>", "ShiftRight"),
    ("&&", "Overlap"), ("!", "ExclamationMark"), ("!!", "DoubleExclamationMark"),
    ("@", "AtSign"), ("^@", "CaretAt"), ("|/", "PGSquareRoot"), ("||/", "PGCubeRoot"),
    ("->", "Arrow"), ("->>", "LongArrow"), ("#>", "HashArrow"), ("#>>", "HashLongArrow"),
    ("@>", "AtArrow"), ("<@", "ArrowAt"), ("#-", "HashMinus"), ("@?", "AtQuestion"),
    ("@@", "AtAt"), ("?", "Question"), ("?&", "QuestionAnd"), ("?|", "QuestionPipe")]

/-- The name of a token by which messages call it. -/
def Token.name : Token → String
  | symbol text => (symbolNames.lookup text).getD text
  | word text quote keyword =>
    "Word(Word \x7b value: " ++ Text.escaped text ++ ", quote_style: "
      ++ (match quote with
        | none => "None"
        | some q => "Some('" ++ q.toString ++ "')")
      ++ ", keyword: " ++ keyword ++ " \x7d)"
  | other => other.spell

end QueryLint.Sql
