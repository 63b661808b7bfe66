import QueryLint.Issue
import QueryLint.Json.Basic
import QueryLint.Sql.Script

/-!
# Rules

A rule is a named check of one text: of the statements in it, of the text itself, or of both. It
reports its issues with a severity of its own choice and knows nothing of configurations.
-/

namespace QueryLint

/-- The text that is checked, the name it goes by, and what its owner says of it. -/
structure Source where
  filename : String
  text : String
  options : Json.Members := []

/-- A named check. -/
structure Rule where
  name : String
  /-- What the rule is for. -/
  description : String := ""
  /-- The severity of the rule's issues. -/
  severity : Severity := .warning
  /-- Whether the rule runs where nothing is configured. -/
  enabled : Bool := true
  /-- The issues of a text and the statements in it. -/
  check : Sql.Script → Source → List Issue

end QueryLint
