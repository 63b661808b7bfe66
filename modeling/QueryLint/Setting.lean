import QueryLint.Json.Basic
import QueryLint.Severity

/-!
# Settings of rules

What a configuration says of one rule: a switch, a severity, a list that starts with a severity and
may go on with options, or anything else. Only a severity makes a rule run, and only the list form
also replaces the severities that the rule reports.
-/

namespace QueryLint

/-- What a configuration says of one rule. -/
inductive Setting
  | toggle (on : Bool)
  | level (name : String)
  | list (items : List Json)
  | other (value : Json)
  deriving Inhabited

namespace Setting

/-- The setting that a value is read as. -/
def ofJson : Json → Setting
  | .bool b => toggle b
  | .string s => level s
  | .array items => list items
  | value => other value

/-- The value that a setting is written as. -/
def toJson : Setting → Json
  | toggle b => .bool b
  | level s => .string s
  | list items => .array items
  | other value => value

/-- Whether a setting is one that reading gives: its value is in the form of its own kind. -/
def isCanonical : Setting → Bool
  | other (.bool _) => false
  | other (.string _) => false
  | other (.array _) => false
  | _ => true

/-- The list form of a severity. -/
def ofSeverity (severity : Severity) : Setting :=
  list [.string severity.name]

/-- The list form of a severity with options. -/
def withOptions (severity : Severity) (options : Json.Members) : Setting :=
  list [.string severity.name, .object options]

/-- Whether the setting switches its rule off. -/
def isDisabled : Setting → Bool
  | toggle false => true
  | _ => false

/-- The text in the place of the severity. -/
def severityText? : Setting → Option String
  | level name => some name
  | list items => items.head?.bind Json.string?
  | _ => none

/-- The options of a rule. -/
def options? : Setting → Option Json.Members
  | list items => items[1]?.bind Json.object?
  | _ => none

/-- The severity of a setting; without one its rule does not run. -/
def severity? (setting : Setting) : Option Severity :=
  if setting.isDisabled then none else setting.severityText?.bind Severity.ofName?

/-- The severity that replaces those the rule reports. -/
def override? : Setting → Option Severity
  | list items => (list items).severity?
  | _ => none

/-- The name of a setting's form. -/
def kind : Setting → String
  | toggle _ => "Toggle"
  | level _ => "Level"
  | list _ => "List"
  | other _ => "Other"

end Setting

end QueryLint
