import QueryLint.Report

/-!
# Reports for reading

Without colours the stylish report is a list of lines and a verdict on them. The verdict goes by the
stored counts of the results; a result that was built from its issues has the counts of its issues,
and a result without issues adds nothing, so the totals of a run are those of the lines that are
shown: `render_stylish_ofIssues` is that no verdict disagrees with the lines above it.
-/

namespace QueryLint.Report

/-! ## The lines and the verdict -/

/-- A line above the verdict: the name of a text, one of its issues, or the empty line that ends
them. -/
inductive Line
  | heading (filename : String)
  | finding (issue : Issue)
  | gap

namespace Line

/-- Where an issue is shown. -/
def shownAt (issue : Issue) : Nat × Nat :=
  match issue.line, issue.column with
  | some line, some column => (line, column)
  | some line, none => (line, 1)
  | none, _ => (0, 0)

/-- What is written in a line. An issue has four fields, with two blanks before each. -/
def text : Line → String
  | heading filename => filename
  | finding issue =>
    let (line, column) := shownAt issue
    String.intercalate "  "
      ["", toString line ++ ":" ++ toString column, issue.severity.name, issue.message, issue.rule]
  | gap => ""

/-- Whether a line shows an issue of the severity. -/
def shows (severity : Severity) : Line → Bool
  | finding issue => issue.severity = severity
  | _ => false

end Line

/-- The lines of one text, if it has issues. -/
def linesOf (filename : String) (issues : List Issue) : List Line :=
  if issues = [] then [] else .heading filename :: issues.map .finding ++ [.gap]

/-- The lines above the verdict. -/
def linesAbove (files : List (String × List Issue)) : List Line :=
  files.flatMap fun (filename, issues) => linesOf filename issues

/-- The lines as they are written. -/
def written (lines : List Line) : String :=
  String.join (lines.map fun line => line.text ++ "\n")

/-- How many there are of something, unless there are none. -/
def tally (count : Nat) (noun : String) : List String :=
  match count with
  | 0 => []
  | 1 => ["1 " ++ noun]
  | count => [toString count ++ " " ++ noun ++ "s"]

/-- What is said of a run in which all is well. -/
def passed : String := "✓ All files passed linting"

/-- What is said of a run with so many errors and warnings. -/
def verdict (errors warnings : Nat) (isEmpty : Bool) : String :=
  if 0 < errors + warnings then
    "✖ " ++ String.intercalate ", " (tally errors "error" ++ tally warnings "warning") ++ "\n"
  else if isEmpty then "" else passed ++ "\n"

/-! ## Writing the lines -/

theorem written_append (above below : List Line) :
    written (above ++ below) = written above ++ written below := by
  rw [written, List.map_append, String.join_append]
  rfl

/-- The place of an issue is written as the line and the column that are shown. -/
theorem place_eq (issue : Issue) :
    place issue
      = toString (Line.shownAt issue).1 ++ ":" ++ toString (Line.shownAt issue).2 := by
  rw [place, Line.shownAt]
  cases issue.line with
  | none =>
    change "0:0" = toString 0 ++ ":" ++ toString 0
    decide
  | some line => cases issue.column <;> rfl

theorem issueLine_false (issue : Issue) :
    issueLine false issue = (Line.finding issue).text ++ "\n" := by
  simp only [issueLine, place_eq, paint, Line.text, String.intercalate_cons_cons,
    String.intercalate_singleton, Bool.false_eq_true, if_false, String.append_assoc,
    String.empty_append]

/-- A result with issues is shown by its lines. -/
theorem block_false {result : LintResult} (h : result.issues ≠ []) :
    block false result = written (linesOf result.filename result.issues) := by
  have hissues : result.issues.map (issueLine false)
      = (result.issues.map Line.finding).map fun line => line.text ++ "\n" := by
    rw [List.map_map]
    exact List.map_congr_left fun issue _ => issueLine_false issue
  rw [linesOf, if_neg h, written_append, block, hissues]
  simp [written, paint, Line.text]

/-- A result that is left out has no lines, so the results that are shown have all the lines. -/
theorem join_block_shown (results : List LintResult) :
    String.join ((results.filter fun result => !result.issues.isEmpty).map (block false))
      = written (results.flatMap fun result => linesOf result.filename result.issues) := by
  induction results with
  | nil => rfl
  | cons result results ih =>
    rw [List.flatMap_cons, written_append, ← ih]
    by_cases h : result.issues = []
    · rw [List.filter_cons_of_neg (by simp [h]), linesOf, if_pos h]
      exact (String.empty_append ..).symm
    · rw [List.filter_cons_of_pos (by simp [h]), List.map_cons, String.join_cons, block_false h]

/-! ## The totals -/

/-- Adding up from some start gives the start and the total. -/
theorem foldl_add_eq_total (count : LintResult → Nat) (results : List LintResult) (start : Nat) :
    results.foldl (fun sum result => sum + count result) start = start + total count results := by
  induction results generalizing start with
  | nil => rfl
  | cons result results ih =>
    rw [total, List.foldl_cons, List.foldl_cons, ih, ih, Nat.zero_add, Nat.add_assoc]

theorem total_cons (count : LintResult → Nat) (result : LintResult) (results : List LintResult) :
    total count (result :: results) = count result + total count results := by
  rw [total, List.foldl_cons, foldl_add_eq_total, Nat.zero_add]

/-- Where results without issues count nothing, the results that are shown count as much as all. -/
theorem total_shown {count : LintResult → Nat} {results : List LintResult}
    (h : ∀ result ∈ results, result.issues = [] → count result = 0) :
    total count (results.filter fun result => !result.issues.isEmpty) = total count results := by
  induction results with
  | nil => rfl
  | cons result results ih =>
    have ⟨hresult, hrest⟩ := List.forall_mem_cons.1 h
    rw [total_cons, ← ih hrest]
    by_cases hempty : result.issues = []
    · rw [List.filter_cons_of_neg (by simp [hempty]), hresult hempty, Nat.zero_add]
    · rw [List.filter_cons_of_pos (by simp [hempty]), total_cons]

/-- There are as many lines that show a severity as issues that have it. -/
theorem countP_linesOf (severity : Severity) (filename : String) (issues : List Issue) :
    (linesOf filename issues).countP (Line.shows severity) = LintResult.count severity issues := by
  by_cases h : issues = []
  · rw [linesOf, if_pos h, h]
    rfl
  · rw [linesOf, if_neg h, List.countP_append, List.countP_cons, List.countP_map]
    rfl

/-- The lines of a severity are as many as the issues of that severity. -/
theorem countP_linesAbove (severity : Severity) (files : List (String × List Issue)) :
    (linesAbove files).countP (Line.shows severity)
      = LintResult.count severity (files.flatMap Prod.snd) := by
  rw [linesAbove, List.countP_flatMap, LintResult.count, List.countP_flatMap]
  exact congrArg List.sum (List.map_congr_left fun file _ => countP_linesOf ..)

/-- A count that goes by the issues of a severity comes to the lines of that severity. -/
theorem total_ofIssues {severity : Severity} {count : LintResult → Nat}
    (hcount : ∀ filename issues,
      count (.ofIssues filename issues) = LintResult.count severity issues)
    (files : List (String × List Issue)) :
    total count ((files.map fun (filename, issues) => .ofIssues filename issues).filter
        fun result => !result.issues.isEmpty)
      = (linesAbove files).countP (Line.shows severity) := by
  rw [total_shown]
  · induction files with
    | nil => rfl
    | cons file files ih =>
      rw [List.map_cons, total_cons, ih, hcount, linesAbove, linesAbove, List.flatMap_cons,
        List.countP_append, countP_linesOf]
  · intro result hresult hempty
    obtain ⟨file, -, rfl⟩ := List.mem_map.1 hresult
    rw [hcount, show file.2 = [] from hempty]
    rfl

/-! ## The verdict -/

/-- A count of zero is not mentioned. -/
theorem tally_eq (count : Nat) (noun : String) :
    tally count noun = if 0 < count then [plural count noun] else [] := by
  match count with
  | 0 => rfl
  | 1 => rfl
  | count + 2 => rfl

/-- Without colors the last line is the verdict. -/
theorem summary_false (errors warnings : Nat) (isEmpty : Bool) :
    summary false errors warnings isEmpty = verdict errors warnings isEmpty := by
  have h : (decide (0 < errors) || decide (0 < warnings)) = decide (0 < errors + warnings) := by
    rw [Bool.eq_iff_iff]
    simp only [Bool.or_eq_true, decide_eq_true_eq]
    omega
  rw [summary, verdict, h, tally_eq, tally_eq]
  simp only [paint, decide_eq_true_eq, Bool.false_eq_true, if_false]
  rw [passed]

/-- Only a run with something in it and with neither errors nor warnings is said to have passed. -/
theorem verdict_eq_passed_iff (errors warnings : Nat) (isEmpty : Bool) :
    verdict errors warnings isEmpty = passed ++ "\n"
      ↔ isEmpty = false ∧ errors = 0 ∧ warnings = 0 := by
  by_cases hcounts : 0 < errors + warnings
  · have hmark : verdict errors warnings isEmpty ≠ passed ++ "\n" := by
      intro h
      rw [verdict, if_pos hcounts] at h
      simpa [passed] using congrArg String.toList h
    exact ⟨fun h => absurd h hmark, fun ⟨_, herrors, hwarnings⟩ => by omega⟩
  · rw [verdict, if_neg hcounts]
    cases isEmpty with
    | true => exact ⟨fun h => absurd (congrArg String.toList h) (by simp), fun h => nomatch h.1⟩
    | false => exact ⟨fun _ => ⟨rfl, by omega, by omega⟩, fun _ => rfl⟩

/-- **The verdict agrees with what is shown.** For results that were built from their issues, the
report without colours is the lines of the texts that have issues, in order, and a verdict on all
errors and warnings; these are as many as are shown, so that a run is said to have passed just if
there is something in it and neither an error nor a warning stands above. -/
theorem render_stylish_ofIssues (files : List (String × List Issue)) :
    let issues := files.flatMap Prod.snd
    let errors := issues.countP fun issue => issue.severity = .error
    let warnings := issues.countP fun issue => issue.severity = .warning
    render .stylish false (files.map fun (filename, issues) => .ofIssues filename issues)
        = written (linesAbove files) ++ verdict errors warnings files.isEmpty
      ∧ (linesAbove files).countP (Line.shows .error) = errors
      ∧ (linesAbove files).countP (Line.shows .warning) = warnings
      ∧ (verdict errors warnings files.isEmpty = passed ++ "\n"
        ↔ files ≠ [] ∧ ∀ line ∈ linesAbove files, ¬line.shows .error ∧ ¬line.shows .warning) := by
  intro issues errors warnings
  have herrors : (linesAbove files).countP (Line.shows .error) = errors := countP_linesAbove ..
  have hwarnings : (linesAbove files).countP (Line.shows .warning) = warnings :=
    countP_linesAbove ..
  refine ⟨?_, herrors, hwarnings, ?_⟩
  · rw [render, stylish, join_block_shown, summary_false, List.flatMap_map,
      total_ofIssues fun _ _ => rfl, total_ofIssues fun _ _ => rfl, herrors, hwarnings,
      List.isEmpty_map]
    rfl
  · rw [verdict_eq_passed_iff, ← herrors, ← hwarnings, List.countP_eq_zero, List.countP_eq_zero,
      List.isEmpty_eq_false_iff]
    exact and_congr_right fun _ => ⟨fun h line hline => ⟨h.1 line hline, h.2 line hline⟩,
      fun h => ⟨fun line hline => (h line hline).1, fun line hline => (h line hline).2⟩⟩

/-- A text without issues is not shown; one with a remark is, and the run has still passed. -/
example :
    render .stylish false
        [.ofIssues "a.sql" [], .ofIssues "b.sql" [⟨"r", .info, "m", some 4, none, none, none⟩]]
      = "b.sql\n  4:1  info  m  r\n\n✓ All files passed linting\n" := by
  decide

end QueryLint.Report
