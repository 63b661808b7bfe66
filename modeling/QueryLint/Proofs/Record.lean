import QueryLint.Proofs.Json.Value
import QueryLint.Record

/-!
# Issues and results are read back

A record that was written and read as a value has its members in the order of their names, and those
that are not set are left out. `gather_some` and `gather_place` say what one member, given or left
out, does to a record that is read; from these an issue and a result are what is read of their values
(`Issue.ofJson_toJson`, `LintResult.ofJson_toJson`), whichever of the places of an issue are known.
-/

namespace QueryLint

open Json

namespace Record

theorem count_natCast (n : Nat) : count (.integer n) = .ok n := by
  rw [count, if_pos (Int.natCast_nonneg n), Int.toNat_natCast]

theorem count?_natCast (n : Nat) : count? (.integer n) = .ok (some n) := by
  change (count (.integer n)).map some = _
  rw [count_natCast]
  rfl

theorem severity_name (s : Severity) : severity (.string s.name) = .ok s := by
  cases s <;> rfl

/-- The value of a place, where it is known. -/
def ofPlace (place : Option Nat) : Option Json :=
  place.map fun n : Nat => .integer n

/-- What is gathered from members, those left out that have no value. -/
def gather {σ : Type} (set : σ → String → Json → Except Mismatch σ) (draft : σ)
    (fields : List (String × Option Json)) : Except Mismatch σ :=
  (present fields).foldlM (fun draft (name, value) => set draft name value) draft

section

variable {σ : Type} {set : σ → String → Json → Except Mismatch σ} {draft : σ}
  {name : String} {fields : List (String × Option Json)}

/-- A member that is given is taken in before the others. -/
theorem gather_some {value : Json} (next : σ) (h : set draft name value = .ok next) :
    gather set draft ((name, some value) :: fields) = gather set next fields := by
  change (set draft name value >>= fun _ => _) = _
  rw [h]
  rfl

/-- A place is taken in where it is known, and left open where it is not. -/
theorem gather_place (set : σ → String → Json → Except Mismatch σ) (name : String)
    (put : Option Nat → σ) (place : Option Nat)
    (h : ∀ n : Nat, set (put none) name (.integer n) =
      count? (.integer n) >>= fun place => .ok (put place)) :
    gather set (put none) ((name, ofPlace place) :: fields) = gather set (put place) fields := by
  cases place with
  | none => rfl
  | some n =>
    refine gather_some _ ?_
    rw [h, count?_natCast]
    rfl

end

/-- A list is read if its items are. -/
theorem list_map {α : Type} {item : Json → Except Mismatch α} {write : α → Json} {xs : List α}
    (h : ∀ x ∈ xs, item (write x) = .ok x) : list item (.array (xs.map write)) = .ok xs := by
  change (xs.map write).mapM item = _
  induction xs with
  | nil => rfl
  | cons x xs ih =>
    rw [List.map_cons, List.mapM_cons, h x List.mem_cons_self,
      ih fun x hmem => h x (List.mem_cons_of_mem _ hmem)]
    rfl

end Record

open Record

/-- The members of an issue, in the order of its fields. -/
theorem Issue.toMembers_eq (issue : Issue) :
    issue.toMembers = present
      [("rule", some (.string issue.rule)), ("severity", some (.string issue.severity.name)),
        ("message", some (.string issue.message)), ("line", ofPlace issue.line),
        ("column", ofPlace issue.column), ("endLine", ofPlace issue.endLine),
        ("endColumn", ofPlace issue.endColumn)] := by
  obtain ⟨rule, severity, message, line, column, endLine, endColumn⟩ := issue
  cases line <;> cases column <;> cases endLine <;> cases endColumn <;> rfl

/-- The members of an issue, ordered by name. -/
theorem Issue.sorted_toJson (issue : Issue) :
    issue.toJson.sorted = .object (present
      [("column", ofPlace issue.column), ("endColumn", ofPlace issue.endColumn),
        ("endLine", ofPlace issue.endLine), ("line", ofPlace issue.line),
        ("message", some (.string issue.message)), ("rule", some (.string issue.rule)),
        ("severity", some (.string issue.severity.name))]) := by
  obtain ⟨rule, severity, message, line, column, endLine, endColumn⟩ := issue
  cases line <;> cases column <;> cases endLine <;> cases endColumn <;> rfl

/-- An issue is read from what it is written as. -/
theorem Issue.ofJson_toJson (issue : Issue) : Issue.ofJson issue.toJson.sorted = .ok issue := by
  obtain ⟨rule, severity, message, line, column, endLine, endColumn⟩ := issue
  have hgather : gather Issue.shape.set {}
      [("column", ofPlace column), ("endColumn", ofPlace endColumn), ("endLine", ofPlace endLine),
        ("line", ofPlace line), ("message", some (.string message)), ("rule", some (.string rule)),
        ("severity", some (.string severity.name))] =
      .ok ⟨rule, severity, message, line, column, endLine, endColumn⟩ := by
    refine (gather_place Issue.shape.set "column" (fun column => { column }) column fun n => rfl).trans ?_
    refine (gather_place Issue.shape.set "endColumn" (fun endColumn => { column, endColumn })
      endColumn fun n => rfl).trans ?_
    refine (gather_place Issue.shape.set "endLine" (fun endLine => { column, endLine, endColumn })
      endLine fun n => rfl).trans ?_
    refine (gather_place Issue.shape.set "line" (fun line => { line, column, endLine, endColumn })
      line fun n => rfl).trans ?_
    refine (gather_some _ rfl).trans ((gather_some _ rfl).trans ((gather_some _ ?_).trans rfl))
    change (Record.severity (.string severity.name) >>= fun _ => _) = _
    rw [severity_name]
    rfl
  rw [Issue.sorted_toJson, Issue.ofJson]
  change (gather Issue.shape.set {} _ >>= fun draft => _) = _
  rw [hgather]
  rfl

/-- The members of a result, ordered by name. -/
theorem LintResult.sorted_toJson (result : LintResult) :
    result.toJson.sorted = .object (present
      [("errorCount", ofPlace (some result.errorCount)),
        ("filename", some (.string result.filename)),
        ("issues", some (.array (result.issues.map fun issue => issue.toJson.sorted))),
        ("warningCount", ofPlace (some result.warningCount))]) := by
  rw [LintResult.toJson, sorted]
  simp only [sortedMembers, sorted, sortedItems_eq_map, List.map_map]
  rfl

/-- A result is read from what it is written as. -/
theorem LintResult.ofJson_toJson (result : LintResult) :
    LintResult.ofJson result.toJson.sorted = .ok result := by
  obtain ⟨filename, issues, errorCount, warningCount⟩ := result
  have hissues : Record.list Issue.ofJson
      (.array (issues.map fun issue => issue.toJson.sorted)) = .ok issues :=
    list_map fun issue _ => issue.ofJson_toJson
  have hgather : gather LintResult.shape.set {}
      [("errorCount", ofPlace (some errorCount)), ("filename", some (.string filename)),
        ("issues", some (.array (issues.map fun issue => issue.toJson.sorted))),
        ("warningCount", ofPlace (some warningCount))] =
      .ok ⟨filename, issues, errorCount, warningCount⟩ := by
    refine (gather_some { errorCount } ?_).trans ((gather_some _ rfl).trans
      ((gather_some { filename, issues, errorCount } ?_).trans ((gather_some _ ?_).trans rfl)))
    · change (Record.count (.integer errorCount) >>= fun _ => _) = _
      rw [count_natCast]
      rfl
    · change (Record.list Issue.ofJson _ >>= fun _ => _) = _
      rw [hissues]
      rfl
    · change (Record.count (.integer warningCount) >>= fun _ => _) = _
      rw [count_natCast]
      rfl
  rw [LintResult.sorted_toJson, LintResult.ofJson]
  change (gather LintResult.shape.set {} _ >>= fun draft => _) = _
  rw [hgather]
  rfl

end QueryLint
