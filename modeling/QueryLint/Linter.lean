import QueryLint.LintResult
import QueryLint.Registry

/-!
# Linting

A parser reads a text as statements; the rules that run are then asked for issues, in the order of the
registry. A text that the parser refuses has one issue, which says so, whatever the configuration.
-/

namespace QueryLint

/-- The configuration where nothing is configured: every rule that is enabled runs at its severity. -/
def Config.standard : Config :=
  { rules := (Registry.standard.rules.filter Rule.enabled).map fun rule =>
      (rule.name, Setting.ofSeverity rule.severity) }

namespace Linter

/-- The name under which texts that cannot be read are reported. -/
def parseErrorRule : String := "parse-error"

/-- The issue of a text that cannot be read. -/
def parseErrorIssue (e : ParseError) : Issue :=
  let issue : Issue :=
    { rule := parseErrorRule, severity := .error, message := "SQL Parse Error: " ++ e.message }
  match e.location with
  | none => issue
  | some range => issue.withPosition range.start

/-- The issues of a text. -/
def issues (config : Config) (registry : Registry) (source : Source)
    (parser : Sql.Parser := .standard) : List Issue :=
  match Sql.Script.parse config.dialect source.text parser with
  | .error e => [parseErrorIssue e]
  | .ok script => (registry.active config).flatMap fun active => active.check script source

/-- The result of linting a text. -/
def lint (config : Config) (registry : Registry) (source : Source)
    (parser : Sql.Parser := .standard) : LintResult :=
  LintResult.ofIssues source.filename (issues config registry source parser)

end Linter

end QueryLint
