import QueryLint.Issue

/-!
# Results

What linting one text gives: its name, the issues in the order in which they were found, and how
many of them are errors and warnings.
-/

namespace QueryLint

/-- The issues of one text. -/
structure LintResult where
  filename : String
  issues : List Issue
  errorCount : Nat
  warningCount : Nat
  deriving DecidableEq, Repr, Inhabited

namespace LintResult

/-- The number of issues of a severity. -/
def count (severity : Severity) (issues : List Issue) : Nat :=
  issues.countP fun issue => issue.severity = severity

/-- The result with the given issues, its counts taken from them. -/
def ofIssues (filename : String) (issues : List Issue) : LintResult :=
  ⟨filename, issues, count .error issues, count .warning issues⟩

/-- Whether some issue is an error, going by the count. -/
def hasErrors (result : LintResult) : Bool :=
  0 < result.errorCount

end LintResult

end QueryLint
