import QueryLint.Severity

/-!
# Issues

What a rule reports: the rule's name, a severity, a message, and where in the text it stands as far
as that is known. Lines and columns are counted from one; line zero means that nothing is known.
-/

namespace QueryLint

/-- A line and a column of a text, both counted from one. -/
structure Position where
  line : Nat
  column : Nat
  deriving DecidableEq, Repr, Inhabited

/-- The position of a line and a column, unless the line is the unknown line zero. -/
def Position.ofLocation? (line column : Nat) : Option Position :=
  if line = 0 then none else some ⟨line, column⟩

/-- One finding in one text. -/
structure Issue where
  rule : String
  severity : Severity
  message : String
  line : Option Nat := none
  column : Option Nat := none
  endLine : Option Nat := none
  endColumn : Option Nat := none
  deriving DecidableEq, Repr, Inhabited

namespace Issue

/-- Places the start of an issue. -/
def withPosition (issue : Issue) (position : Position) : Issue :=
  { issue with line := some position.line, column := some position.column }

/-- Places the end of an issue. -/
def withEnd (issue : Issue) (position : Position) : Issue :=
  { issue with endLine := some position.line, endColumn := some position.column }

/-- The start of an issue, where both its line and its column are known. -/
def position? (issue : Issue) : Option Position :=
  match issue.line, issue.column with
  | some line, some column => some ⟨line, column⟩
  | _, _ => none

end Issue

/-- Where in a text something lies. -/
structure SourceRange where
  start : Position
  stop : Position
  deriving DecidableEq, Repr

end QueryLint
