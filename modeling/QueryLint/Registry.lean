import QueryLint.Config.Basic
import QueryLint.Rule.KeywordCase
import QueryLint.Rule.NoSelectStar
import QueryLint.Rule.TableAlias
import QueryLint.Text.Escaped

/-!
# Registries

The rules that there are, each under a name of its own and in the order in which they were added. A
configuration says which of them run: those whose setting names a severity.
-/

namespace QueryLint

/-- Rules in the order in which they were added. -/
structure Registry where
  rules : List Rule := []

/-- A rule that runs, with the severity that replaces those it reports. -/
structure ActiveRule where
  rule : Rule
  override? : Option Severity := none

/-- The severity that the issues of a rule that runs are expected to have. -/
def ActiveRule.severity (active : ActiveRule) : Severity :=
  active.override?.getD active.rule.severity

/-- The issues of a rule that runs. -/
def ActiveRule.check (active : ActiveRule) (script : Sql.Script) (source : Source) : List Issue :=
  let issues := active.rule.check script source
  match active.override? with
  | none => issues
  | some severity => issues.map fun issue => { issue with severity }

/-- A severity, or the word for none, in the form of a description. -/
def describeOverride : Option Severity → String
  | none => "None"
  | some .error => "Some(Error)"
  | some .warning => "Some(Warning)"
  | some .info => "Some(Info)"

/-- A description of a rule that runs. -/
def ActiveRule.describe (active : ActiveRule) : String :=
  "ActiveRule \x7b rule: " ++ Text.escaped active.rule.name ++ ", severity: "
    ++ describeOverride active.override? ++ " \x7d"

/-- A description of rules that run. -/
def ActiveRule.describeAll (active : List ActiveRule) : String :=
  "[" ++ String.intercalate ", " (active.map describe) ++ "]"

namespace Registry

/-- The registry without rules. -/
def empty : Registry := {}

/-- The rule of a name. -/
def get? (registry : Registry) (name : String) : Option Rule :=
  registry.rules.find? fun rule => rule.name == name

/-- Adds a rule, unless there is one of its name. -/
def add (registry : Registry) (rule : Rule) : Registry :=
  if (registry.get? rule.name).isSome then registry else ⟨registry.rules ++ [rule]⟩

/-- The names of the rules. -/
def names (registry : Registry) : List String :=
  registry.rules.map Rule.name

/-- The rules that come with the program. -/
def standard : Registry :=
  [NoSelectStar.rule, KeywordCase.rule, TableAlias.rule].foldl add empty

/-- How a configuration makes a rule run, if it does. -/
def activate? (config : Config) (rule : Rule) : Option ActiveRule := do
  let setting ← config.setting? rule.name
  let _ ← setting.severity?
  return ⟨rule, setting.override?⟩

/-- The rules that a configuration makes run. -/
def active (registry : Registry) (config : Config) : List ActiveRule :=
  registry.rules.filterMap (activate? config)

/-- The names of the rules in escaped form. -/
def describe (registry : Registry) : String :=
  Text.escapedList registry.names

end Registry

end QueryLint
