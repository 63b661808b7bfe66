import QueryLint.Decimal.Layout
import QueryLint.Dialect
import QueryLint.Json.Basic
import QueryLint.LintResult
import QueryLint.Mismatch

/-!
# Issues and results as values

Issues and results are written as objects that leave out what is not set. They are read from objects
or from arrays that give the fields in order. Members of an object are looked at in the order of
their names, those that no field has are passed over, and a field that is missing is noticed last.
-/

namespace QueryLint

open Json

/-- What a value is found to be. -/
def Json.found : Json → Found
  | .null => .null
  | .bool b => .bool b
  | .integer i => .integer i
  | .float x => .float (String.ofList x.compact)
  | .string s => .string s
  | .array _ => .sequence
  | .object _ => .map

namespace Record

/-- A text. -/
def text : Json → Except Mismatch String
  | .string s => .ok s
  | value => .error (.kind value.found "a string")

/-- A count or a place. -/
def count : Json → Except Mismatch Nat
  | .integer i => if 0 ≤ i then .ok i.toNat else .error (.value (.integer i) "usize")
  | value => .error (.kind value.found "usize")

/-- A count or a place that may be missing. -/
def count? : Json → Except Mismatch (Option Nat)
  | .null => .ok none
  | value => (count value).map some

/-- A name out of a list: a string, or an object whose only member has that name and no value. -/
def choice {α : Type} (ofName? : String → Option α) (known : List String) (value : Json) :
    Except Mismatch α :=
  let named (name : String) : Except Mismatch α :=
    match ofName? name with
    | some x => .ok x
    | none => .error (.variant name known)
  match value with
  | .string s => named s
  | .object [(name, content)] => do
    let x ← named name
    match content with
    | .null => .ok x
    | value => .error (.kind value.found "unit")
  | .object _ => .error (.value .map "map with a single key")
  | value => .error (.kind value.found "string or map")

/-- A severity. -/
def severity (value : Json) : Except Mismatch Severity :=
  choice Severity.ofName? (Severity.all.map Severity.name) value

/-- A dialect, by the names of configurations. -/
def dialect (value : Json) : Except Mismatch Dialect :=
  choice Dialect.ofName? (Dialect.configNames.map Prod.fst) value

/-- A list of what `item` reads. -/
def list {α : Type} (item : Json → Except Mismatch α) : Json → Except Mismatch (List α)
  | .array items => items.mapM item
  | value => .error (.kind value.found "a sequence")

/-- The description of a record type, for reading: its name, its fields in order, how a field is
set in what was gathered so far, and the record that comes of it. -/
structure Shape (σ α : Type) where
  name : String
  fields : List String
  start : σ
  set : σ → String → Json → Except Mismatch σ
  /-- The record, or its first required field that is missing. -/
  finish : σ → Except String α

/-- Reads a record. -/
def read {σ α : Type} (shape : Shape σ α) : Json → Except Mismatch α
  | .object members => do
    let draft ← members.foldlM (fun draft (name, value) => shape.set draft name value) shape.start
    match shape.finish draft with
    | .ok x => .ok x
    | .error field => .error (.missing field)
  | .array items => do
    let draft ← (shape.fields.zip items).foldlM
      (fun draft (name, value) => shape.set draft name value) shape.start
    match shape.finish draft with
    | .ok x =>
      if shape.fields.length < items.length then
        .error (.length items.length "fewer elements in array")
      else .ok x
    | .error _ =>
      .error (.length items.length
        (shape.name ++ " with " ++ toString shape.fields.length ++ " elements"))
  | value => .error (.kind value.found shape.name)

/-- Members with a value; the others are left out. -/
def present (members : List (String × Option Json)) : Members :=
  members.filterMap fun (name, value) => value.map (name, ·)

end Record

open Record

/-- A position with the fields that were given so far. -/
structure Position.Draft where
  line : Option Nat := none
  column : Option Nat := none

/-- Positions as records. -/
def Position.shape : Shape Position.Draft Position where
  name := "struct Position"
  fields := ["line", "column"]
  start := {}
  set draft name value := match name with
    | "line" => do .ok { draft with line := some (← Record.count value) }
    | "column" => do .ok { draft with column := some (← Record.count value) }
    | _ => .ok draft
  finish draft := match draft.line, draft.column with
    | some line, some column => .ok ⟨line, column⟩
    | none, _ => .error "line"
    | _, none => .error "column"

/-- Reads a position. -/
def Position.ofJson : Json → Except Mismatch Position :=
  read Position.shape

/-- Writes a position. -/
def Position.toJson (position : Position) : Json :=
  .object [("column", .integer position.column), ("line", .integer position.line)]

/-- An issue with the fields that were given so far. -/
structure Issue.Draft where
  rule : Option String := none
  severity : Option Severity := none
  message : Option String := none
  line : Option Nat := none
  column : Option Nat := none
  endLine : Option Nat := none
  endColumn : Option Nat := none

/-- Issues as records. -/
def Issue.shape : Shape Issue.Draft Issue where
  name := "struct Issue"
  fields := ["rule", "severity", "message", "line", "column", "endLine", "endColumn"]
  start := {}
  set draft name value := match name with
    | "rule" => do .ok { draft with rule := some (← text value) }
    | "severity" => do .ok { draft with severity := some (← Record.severity value) }
    | "message" => do .ok { draft with message := some (← text value) }
    | "line" => do .ok { draft with line := ← count? value }
    | "column" => do .ok { draft with column := ← count? value }
    | "endLine" => do .ok { draft with endLine := ← count? value }
    | "endColumn" => do .ok { draft with endColumn := ← count? value }
    | _ => .ok draft
  finish draft := match draft.rule, draft.severity, draft.message with
    | some rule, some severity, some message =>
      .ok ⟨rule, severity, message, draft.line, draft.column, draft.endLine, draft.endColumn⟩
    | none, _, _ => .error "rule"
    | _, none, _ => .error "severity"
    | _, _, none => .error "message"

/-- Reads an issue. -/
def Issue.ofJson : Json → Except Mismatch Issue :=
  read Issue.shape

/-- The members of a written issue, in the order of its fields. -/
def Issue.toMembers (issue : Issue) : Members :=
  let place (value : Option Nat) : Option Json := value.map fun n => .integer n
  present
    [("rule", some (.string issue.rule)), ("severity", some (.string issue.severity.name)),
      ("message", some (.string issue.message)), ("line", place issue.line),
      ("column", place issue.column), ("endLine", place issue.endLine),
      ("endColumn", place issue.endColumn)]

/-- Writes an issue. -/
def Issue.toJson (issue : Issue) : Json :=
  .object issue.toMembers

/-- A result with the fields that were given so far. -/
structure LintResult.Draft where
  filename : Option String := none
  issues : Option (List Issue) := none
  errorCount : Option Nat := none
  warningCount : Option Nat := none

/-- Results as records. -/
def LintResult.shape : Shape LintResult.Draft LintResult where
  name := "struct LintResult"
  fields := ["filename", "issues", "errorCount", "warningCount"]
  start := {}
  set draft name value := match name with
    | "filename" => do .ok { draft with filename := some (← text value) }
    | "issues" => do .ok { draft with issues := some (← Record.list Issue.ofJson value) }
    | "errorCount" => do .ok { draft with errorCount := some (← Record.count value) }
    | "warningCount" => do .ok { draft with warningCount := some (← Record.count value) }
    | _ => .ok draft
  finish draft := match draft.filename, draft.issues, draft.errorCount, draft.warningCount with
    | some filename, some issues, some errors, some warnings =>
      .ok ⟨filename, issues, errors, warnings⟩
    | none, _, _, _ => .error "filename"
    | _, none, _, _ => .error "issues"
    | _, _, none, _ => .error "errorCount"
    | _, _, _, none => .error "warningCount"

/-- Reads a result. -/
def LintResult.ofJson : Json → Except Mismatch LintResult :=
  read LintResult.shape

/-- Writes a result. -/
def LintResult.toJson (result : LintResult) : Json :=
  .object
    [("filename", .string result.filename), ("issues", .array (result.issues.map Issue.toJson)),
      ("errorCount", .integer result.errorCount), ("warningCount", .integer result.warningCount)]

end QueryLint
