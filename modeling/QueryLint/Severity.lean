/-!
# Severities

How serious an issue is. A severity has one name, used in configurations, reports and listings.
-/

namespace QueryLint

/-- How serious an issue is. -/
inductive Severity
  | error
  | warning
  | info
  deriving DecidableEq, Repr, Inhabited

namespace Severity

/-- The name of a severity. -/
def name : Severity → String
  | error => "error"
  | warning => "warning"
  | info => "info"

/-- All severities, the most serious first. -/
def all : List Severity := [error, warning, info]

/-- The severity of a name. -/
def ofName? (text : String) : Option Severity :=
  all.find? fun severity => severity.name == text

/-- What is said of a text that names no severity. -/
def unknown (text : String) : String :=
  "Unknown severity: '" ++ text ++ "'. Expected one of: error, warning, info."

/-- Reads the name of a severity. -/
def parse (text : String) : Except String Severity :=
  match ofName? text with
  | some severity => .ok severity
  | none => .error (unknown text)

end Severity

end QueryLint
