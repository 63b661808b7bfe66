import QueryLint.Sql.Syntax

/-!
# Spelling of names and literals

How the parts of a statement that hold no expression are written. A quote inside a quoted text is
doubled, unless it looks doubled or escaped already.
-/

namespace QueryLint.Sql

/-- Doubles the quotes of a text. A pair of quotes stays as it is, and so does every quote that a
backslash or another such quote stands before. -/
def doubleQuotes (quote : Char) (afterBackslash : Bool) : List Char → List Char
  | [] => []
  | [c] => if c = quote && !afterBackslash then [c, c] else [c]
  | c :: d :: rest =>
    if c = quote then
      if afterBackslash then c :: doubleQuotes quote true (d :: rest)
      else if d = quote then c :: d :: doubleQuotes quote false rest
      else c :: c :: doubleQuotes quote false (d :: rest)
    else c :: doubleQuotes quote (c = '\\') (d :: rest)

/-- A text between quotes. -/
def quoteWith (quote : Char) (text : String) : String :=
  String.ofList (quote :: doubleQuotes quote false text.toList ++ [quote])

/-- One character of a literal with escapes. -/
def escapeLetter (c : Char) : List Char :=
  match c with
  | '\'' => ['\\', '\'']
  | '\\' => ['\\', '\\']
  | '\n' => ['\\', 'n']
  | '\t' => ['\\', 't']
  | '\r' => ['\\', 'r']
  | c => [c]

/-- Items one after another with a comma and a blank between them. -/
def commaSeparated (items : List String) : String :=
  String.intercalate ", " items

/-- A name. -/
def Ident.spell (i : Ident) : String :=
  match i.quote with
  | none => i.text
  | some '[' => "[" ++ i.text ++ "]"
  | some q => quoteWith q i.text

/-- A name with its qualifiers. -/
def ObjectName.spell (name : ObjectName) : String :=
  String.intercalate "." (name.map Ident.spell)

/-- A column of an alias. -/
def AliasColumn.spell (c : AliasColumn) : String :=
  match c.type with
  | none => c.name.spell
  | some type => c.name.spell ++ " " ++ type

/-- An alias. -/
def TableAlias.spell (a : TableAlias) : String :=
  if a.columns.isEmpty then a.name.spell
  else a.name.spell ++ " (" ++ commaSeparated (a.columns.map AliasColumn.spell) ++ ")"

/-- An alias behind what it names. -/
def aliasSuffix : Option TableAlias → String
  | none => ""
  | some a => " AS " ++ a.spell

/-- A literal. -/
def Literal.spell : Literal → String
  | number text long => if long then text ++ "L" else text
  | quoted .single text => quoteWith '\'' text
  | quoted .double text => quoteWith '"' text
  | quoted .escape text =>
    "E'" ++ String.ofList (text.toList.flatMap escapeLetter) ++ "'"
  | quoted kind text => kind.spell text
  | dollarQuoted tag text => "$" ++ tag ++ "$" ++ text ++ "$" ++ tag ++ "$"
  | boolean true => "true"
  | boolean false => "false"
  | null => "NULL"
  | placeholder text => text

/-- A set operator. -/
def SetOperator.spell : SetOperator → String
  | union => "UNION"
  | except => "EXCEPT"
  | intersect => "INTERSECT"

/-- The word `NOT` where it is meant. -/
def negation (negated : Bool) : String :=
  if negated then "NOT " else ""

end QueryLint.Sql
