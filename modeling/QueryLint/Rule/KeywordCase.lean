import QueryLint.Rule.Basic
import QueryLint.Text.Line
import QueryLint.Text.Quoted
import QueryLint.Text.Word

/-!
# Keywords in capitals

Keywords are to be written in capital letters. The rule looks at the text line by line and not at
the queries in it: every word that spells a keyword in another case is reported, in comments too,
unless it starts inside a quoted stretch of its line. The issues of one line come in the order of
the list of keywords, those of one keyword from left to right.
-/

namespace QueryLint.KeywordCase

open Text

/-- The name of the rule. -/
def name : String := "keyword-case"

/-- What the rule is for. -/
def description : String := "Enforce consistent keyword case (uppercase)"

/-- The keywords that are looked for, in the order in which they are reported. -/
def keywords : List String :=
  ["SELECT", "FROM", "WHERE", "JOIN", "LEFT", "RIGHT", "INNER", "OUTER", "ON", "AND", "OR",
    "NOT", "IN", "EXISTS", "BETWEEN", "LIKE", "IS", "NULL", "ORDER", "BY", "GROUP", "HAVING",
    "LIMIT", "OFFSET", "UNION", "INSERT", "INTO", "VALUES", "UPDATE", "SET", "DELETE", "CREATE",
    "TABLE", "ALTER", "DROP", "INDEX", "VIEW", "AS"]

/-- What is said of a word that spells a keyword. -/
def message (word keyword : String) : String :=
  "Keyword \"" ++ word ++ "\" should be uppercase \"" ++ keyword ++ "\""

/-- The words of a line that are to be reported for one keyword. -/
def misspelt (keyword : String) (line : List Char) : List Word :=
  let hidden := quotedStretches line
  (occurrences keyword.toList line).filter fun word =>
    !hidden.any (·.contains word.start) && word.text != keyword.toList

/-- The issue of one word. -/
def issueOf (number : Nat) (keyword : String) (word : Word) : Issue :=
  { rule := name, severity := .warning
    message := message (String.ofList word.text) keyword
    line := some number, column := some (word.start + 1)
    endLine := some number, endColumn := some (word.start + 1 + word.text.length) }

/-- The issues of one line. -/
def scanLine (number : Nat) (line : List Char) : List Issue :=
  keywords.flatMap fun keyword => (misspelt keyword line).map (issueOf number keyword)

/-- The issues of a text. -/
def scan (text : List Char) : List Issue :=
  (numberedLines text).flatMap fun (number, line) => scanLine number line

/-- The rule. -/
def rule : Rule := { name, description, check := fun _ source => scan source.text.toList }

end QueryLint.KeywordCase
