import QueryLint.Json.Writer
import QueryLint.Record

/-!
# Reports

The results of a run as text: `Report.stylish` for reading, with or without colours, and
`Report.json` for other programs. A result without issues has no lines of its own in the stylish
report and adds nothing to its totals.
-/

namespace QueryLint.Report

/-- The forms of a report. -/
inductive Format
  | stylish
  | json
  deriving DecidableEq, Repr, Inhabited

/-- The codes of the colours and marks that a terminal shows. -/
inductive Ink
  | underline
  | red
  | yellow
  | blue
  | gray
  | green
  deriving DecidableEq, Repr

/-- The number of an ink's code. -/
def Ink.code : Ink → String
  | underline => "4"
  | red => "31"
  | yellow => "33"
  | blue => "34"
  | gray => "90"
  | green => "32"

/-- A piece of text, written in an ink where colours are wanted. -/
def paint (color : Bool) (ink : Ink) (text : String) : String :=
  if color then "\x1b[" ++ ink.code ++ "m" ++ text ++ "\x1b[0m" else text

/-- The ink of a severity. -/
def severityInk : Severity → Ink
  | .error => .red
  | .warning => .yellow
  | .info => .blue

/-- Where an issue starts: without a column in the first one, without a line at `0:0`. -/
def place (issue : Issue) : String :=
  match issue.line with
  | some line => toString line ++ ":" ++ toString (issue.column.getD 1)
  | none => "0:0"

/-- A number of things, in the plural unless it is one. -/
def plural (count : Nat) (noun : String) : String :=
  if count = 1 then toString count ++ " " ++ noun else toString count ++ " " ++ noun ++ "s"

/-- The line of one issue. -/
def issueLine (color : Bool) (issue : Issue) : String :=
  "  " ++ place issue ++ "  " ++ paint color (severityInk issue.severity) issue.severity.name
    ++ "  " ++ issue.message ++ "  " ++ paint color .gray issue.rule ++ "\n"

/-- The lines of one result: its name, its issues and an empty line. -/
def block (color : Bool) (result : LintResult) : String :=
  paint color .underline result.filename ++ "\n"
    ++ String.join (result.issues.map (issueLine color)) ++ "\n"

/-- The last line, given the totals. -/
def summary (color : Bool) (errors warnings : Nat) (isEmpty : Bool) : String :=
  if 0 < errors || 0 < warnings then
    let parts :=
      (if 0 < errors then [paint color .red (plural errors "error")] else [])
        ++ (if 0 < warnings then [paint color .yellow (plural warnings "warning")] else [])
    "✖ " ++ String.intercalate ", " parts ++ "\n"
  else if isEmpty then ""
  else paint color .green "✓ All files passed linting" ++ "\n"

/-- The sum of what is counted in several results. -/
def total (count : LintResult → Nat) (results : List LintResult) : Nat :=
  results.foldl (fun sum result => sum + count result) 0

/-- The report for reading. -/
def stylish (color : Bool) (results : List LintResult) : String :=
  let shown := results.filter fun result => !result.issues.isEmpty
  String.join (shown.map (block color))
    ++ summary color (total (·.errorCount) shown) (total (·.warningCount) shown) results.isEmpty

/-- The report for other programs. -/
def json (results : List LintResult) : String :=
  Json.pretty (.array (results.map LintResult.toJson)) ++ "\n"

/-- The report in the given form. -/
def render (format : Format) (color : Bool) (results : List LintResult) : String :=
  match format with
  | .stylish => stylish color results
  | .json => json results

end QueryLint.Report
