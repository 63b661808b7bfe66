import QueryLint.Sql.Syntax

/-!
# The selections of a body

A body is a selection, or bodies with set operators between them, or something that holds no selection
of its own: a query between parentheses is a query by itself. `Body.selects` says which selections a
body has; `selectsOf` finds them with a list of the bodies still to be looked at, so that a long chain
of set operators needs no deep recursion.
-/

namespace QueryLint.Sql

/-- The selections of a body, from left to right. -/
def Body.selects : Body → List Select
  | .select s => [s]
  | .setOperation left _ _ right => left.selects ++ right.selects
  | _ => []

/-- The selections of several bodies: the first body is looked at, and the sides of a set operator
take its place. -/
def selectsOf : List Body → List Select
  | [] => []
  | .select s :: rest => s :: selectsOf rest
  | .setOperation left _op _ right :: rest => selectsOf (left :: right :: rest)
  | _other :: rest => selectsOf rest
termination_by pending => sizeOf pending
decreasing_by
  · simp only [List.cons.sizeOf_spec, Body.select.sizeOf_spec]
    omega
  · have : 0 < sizeOf _op := by cases _op <;> decide
    simp only [List.cons.sizeOf_spec, Body.setOperation.sizeOf_spec]
    omega
  · simp only [List.cons.sizeOf_spec]
    omega

/-- The selections of the body of a query. -/
def Query.selects (q : Query) : List Select := selectsOf [q.body]

end QueryLint.Sql
