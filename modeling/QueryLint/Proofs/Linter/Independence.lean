import QueryLint.Proofs.Config
import QueryLint.Proofs.Linter.Block
import QueryLint.Proofs.Registry

/-!
# Rules do not get in each other's way

Switching one of the program's rules off takes the issues of that rule out of a result and does
nothing else. In the configuration only the entry of the rule is another one, so the blocks of the
other rules stay as they are (`block_withRule_of_ne`); and because rules sign their issues, the
block that goes is told from those that stay by the name on its issues (`block_filter`). The report
of a text that cannot be read is signed by no rule, and stays.
-/

namespace QueryLint.Linter

variable {config : Config} {rule : Rule} {name : String} {script : Sql.Script} {source : Source}

/-- What a rule adds to a result is signed, also under another severity. -/
theorem rule_of_mem_block (hsigns : rule.Signs) {issue : Issue}
    (h : issue ∈ block config script source rule) : issue.rule = rule.name := by
  obtain ⟨active, hactive, hissue⟩ := List.mem_flatMap.1 h
  have hrule := Registry.rule_of_activate? (Option.mem_toList.1 hactive)
  rw [← hrule] at hsigns ⊢
  exact (active.signs_check hsigns script source issue hissue).1

/-- Of the block of a rule that signs, all issues pass for those of another rule, or none does. -/
theorem block_filter (hsigns : rule.Signs) :
    (block config script source rule).filter (fun issue => issue.rule ≠ name) =
      if rule.name = name then [] else block config script source rule := by
  split
  next h =>
    refine List.filter_eq_nil_iff.2 fun issue hissue => ?_
    rw [rule_of_mem_block hsigns hissue, h]
    simp
  next h =>
    refine List.filter_eq_self.2 fun issue hissue => ?_
    rw [rule_of_mem_block hsigns hissue]
    simpa using h

/-- The setting of one rule does not matter to the block of another. -/
theorem block_withRule_of_ne (h : rule.name ≠ name) (setting : Setting) :
    block (config.withRule name setting) script source rule = block config script source rule := by
  rw [block, block, Registry.activate?_eq, Registry.activate?_eq, Config.setting?_withRule,
    if_neg h]

/-- A rule that is switched off has an empty block. -/
theorem block_withRule_off (h : rule.name = name) :
    block (config.withRule name (.toggle false)) script source rule = [] := by
  rw [block, Registry.activate?_eq, Config.setting?_withRule, if_pos h]
  rfl

/-- Switching a rule off takes the issues of its name out, where all rules of the registry sign
theirs and the name is not that of the report of a text that cannot be read. -/
theorem issues_withRule_off {registry : Registry} (hsigns : ∀ rule ∈ registry.rules, rule.Signs)
    (hname : name ≠ parseErrorRule) (config : Config) (source : Source) (parser : Sql.Parser) :
    issues (config.withRule name (.toggle false)) registry source parser =
      (issues config registry source parser).filter fun issue => issue.rule ≠ name := by
  -- The dialect stays, so the text is read as before.
  have hdialect : (config.withRule name (.toggle false)).dialect = config.dialect := rfl
  cases hparse : Sql.Script.parse config.dialect source.text parser with
  | error e =>
    have hrule : (parseErrorIssue e).rule = parseErrorRule := by
      unfold parseErrorIssue
      cases e.location <;> rfl
    rw [issues_of_error (hdialect ▸ hparse), issues_of_error hparse]
    refine (List.filter_eq_self.2 fun issue h => ?_).symm
    rw [List.mem_singleton.1 h, hrule]
    simpa using hname.symm
  | ok script =>
    rw [issues_of_ok (hdialect ▸ hparse), issues_of_ok hparse,
      List.filter_flatMap]
    refine List.flatMap_congr fun rule hrule => ?_
    rw [block_filter (hsigns rule hrule)]
    split
    next h => exact block_withRule_off h
    next h => exact block_withRule_of_ne h _

/-- The issues of one severity are those under other names and those under the name. -/
theorem count_eq_add (severity : Severity) (name : String) (issues : List Issue) :
    LintResult.count severity issues =
      LintResult.count severity (issues.filter fun issue => issue.rule ≠ name)
        + (issues.filter fun issue => issue.rule = name ∧ issue.severity = severity).length := by
  unfold LintResult.count
  rw [List.countP_eq_countP_filter_add issues _ fun issue => decide (issue.rule ≠ name)]
  -- Of the two summands only the second is to become the length of a list.
  congr 1
  rw [List.countP_eq_length_filter, List.filter_filter]
  congr 2
  funext issue
  simp [Bool.and_comm]

/-- **Rules are independent.** Switching off a rule of the program leaves of a result the issues that
are not the rule's, in their order and as they are, whether the text can be read or not; the counts
lose what the removed issues counted for. And whatever setting the rule gets, the others, and the
report of a text that cannot be read, say what they said. What the parser reads does not matter. -/
theorem lint_withRule_off (config : Config) (source : Source) (parser : Sql.Parser) {name : String}
    (hname : name ∈ Registry.standard.names) :
    let on := lint config Registry.standard source parser
    let off := lint (config.withRule name (.toggle false)) Registry.standard source parser
    off.filename = on.filename
    ∧ off.issues = on.issues.filter (fun issue => issue.rule ≠ name)
    ∧ off.errorCount + (on.issues.filter fun issue =>
        issue.rule = name ∧ issue.severity = .error).length = on.errorCount
    ∧ off.warningCount + (on.issues.filter fun issue =>
        issue.rule = name ∧ issue.severity = .warning).length = on.warningCount
    ∧ ∀ setting, (lint (config.withRule name setting) Registry.standard source parser).issues.filter
        (fun issue => issue.rule ≠ name) = on.issues.filter (fun issue => issue.rule ≠ name) := by
  intro on off
  have hparse : name ≠ parseErrorRule := by
    rintro rfl
    exact absurd hname (by decide)
  have hoff : ∀ config : Config,
      issues (config.withRule name (.toggle false)) Registry.standard source parser =
        (issues config Registry.standard source parser).filter fun issue => issue.rule ≠ name := by
    intro config
    exact issues_withRule_off (fun _ => Registry.signs_of_mem_standard) hparse config source parser
  have hissues : off.issues = on.issues.filter fun issue => issue.rule ≠ name := hoff config
  have hcount : ∀ severity, LintResult.count severity off.issues
      + (on.issues.filter fun issue => issue.rule = name ∧ issue.severity = severity).length =
        LintResult.count severity on.issues := by
    intro severity
    rw [hissues]
    exact (count_eq_add severity name on.issues).symm
  refine ⟨rfl, hissues, hcount .error, hcount .warning, fun setting => ?_⟩
  -- Switched off after either setting, the rule leaves one and the same configuration behind.
  change List.filter _ (issues _ _ _ _) = List.filter _ (issues _ _ _ _)
  rw [← hoff, ← hoff, Config.withRule_withRule]

/-- A word in a comment and a star have an issue each. When the rule for words is switched off, that of
the word goes, and that of the star stays. -/
theorem lint_withRule_off_comment :
    let parser : Sql.Parser := .standard
    let source : Source := ⟨"query.sql", "SELECT * FROM users -- is", []⟩
    let on := lint Config.standard Registry.standard source parser
    let off := lint (Config.standard.withRule "keyword-case" (.toggle false)) Registry.standard source
      parser
    "keyword-case" ∈ Registry.standard.names
    ∧ on.warningCount = 2
    ∧ off.issues = on.issues.filter (fun issue => issue.rule ≠ "keyword-case")
    ∧ off.issues.map Issue.rule = ["no-select-star"] := by
  intro parser source on off
  have hname : "keyword-case" ∈ Registry.standard.names := by decide
  have hon : on.warningCount = 2 := by decide +kernel
  have hrest : (on.issues.filter fun issue => issue.rule ≠ "keyword-case").map Issue.rule =
      ["no-select-star"] := by decide +kernel
  obtain ⟨-, hoff, -⟩ := lint_withRule_off Config.standard source parser hname
  exact ⟨hname, hon, hoff, hoff ▸ hrest⟩

end QueryLint.Linter
