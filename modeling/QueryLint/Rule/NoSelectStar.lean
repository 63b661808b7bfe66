import QueryLint.Rule.Basic
import QueryLint.Sql.Node.Preorder
import QueryLint.Sql.Selects

/-!
# No stars

The columns of a selection are to be named. Every star among them is reported, in whatever query it
stands. Queries are gone through from the outside in; the selections of the body of a query are looked
at when the query is come upon.
-/

namespace QueryLint.NoSelectStar

open Sql

/-- The name of the rule. -/
def name : String := "no-select-star"

/-- What the rule is for. -/
def description : String := "Disallow SELECT * in queries"

/-- What is said of a star. -/
def message : String := "Avoid using SELECT *. Specify column names explicitly."

/-- The position of a place in a text. -/
def position? (l : Sql.Location) : Option Position :=
  Position.ofLocation? l.line l.column

/-- The issue of a star: it stands where the star stands, or else where the selection stands. -/
def issueAt (star selection : Span) : Issue :=
  let span := if (position? star.start).isSome then star else selection
  let issue : Issue := { rule := name, severity := .warning, message }
  match position? span.start with
  | none => issue
  | some start =>
    match position? span.stop with
    | none => issue.withPosition start
    | some stop => (issue.withPosition start).withEnd stop

/-- Where the star among the columns of a selection stands, if the column is one. -/
def star? : SelectItem → Option Span
  | .expr _ _ => none
  | .star span _ => some span
  | .starOf _ span _ => some span

/-- The issues of a selection. -/
def checkSelect (s : Select) : List Issue :=
  (s.items.filterMap star?).map fun span => issueAt span s.span

/-- The issues of a node itself, without what it holds. -/
def enter : Node → List Issue
  | .query q => q.selects.flatMap checkSelect
  | _ => []

/-- The issues of statements. -/
def check (script : Script) : List Issue :=
  script.flatMap fun s => s.nodes.flatMap enter

/-- The rule. -/
def rule : Rule := { name, description, check := fun script _ => check script }

end QueryLint.NoSelectStar
