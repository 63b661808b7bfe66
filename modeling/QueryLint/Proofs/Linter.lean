import Mathlib.Data.List.Forall2
import QueryLint.Proofs.Linter.Block
import QueryLint.Proofs.Setting

/-!
# What linting gives

A text that the parser refuses has one issue, and the rules have no say in it. Otherwise every rule of
the registry adds a block of issues to the result, in the order of the registry: an empty one where
the configuration does not make the rule run, and else what the rule reports, with other severities
at most (`Contribution`). `lint_result` puts this together with the counts, which are taken of the
issues as they stand in the result. It holds for every parser.

The configuration is only asked for the setting of each rule, by `Setting.Runs`; neither the order
of its entries nor an entry without a rule makes a difference.
-/

namespace QueryLint

namespace Registry

variable {config : Config} {rule : Rule}

/-- A rule is active when it has a setting that makes it run, with the severity that this gives. -/
theorem activate?_eq_some_iff {active : ActiveRule} :
    activate? config rule = some active ↔
      active.rule = rule ∧ ∃ setting, config.setting? rule.name = some setting
        ∧ setting.Runs active.override? := by
  rw [activate?_eq]
  constructor
  · intro h
    obtain ⟨setting, hs, hmap⟩ := Option.bind_eq_some_iff.1 h
    obtain ⟨severity, hseverity, rfl⟩ := Option.map_eq_some_iff.1 hmap
    have hsome : setting.severity?.isSome := by rw [hseverity]; rfl
    exact ⟨rfl, setting, hs, Setting.runs_iff.2 ⟨hsome, rfl⟩⟩
  · rintro ⟨rfl, setting, hs, hruns⟩
    obtain ⟨hsome, hoverride⟩ := Setting.runs_iff.1 hruns
    obtain ⟨severity, hseverity⟩ := Option.isSome_iff_exists.1 hsome
    rw [hs, Option.bind_some, hseverity, Option.map_some, hoverride]

/-- A rule is idle when no setting of its name makes it run. -/
theorem activate?_eq_none_iff :
    activate? config rule = none ↔
      ∀ setting override, config.setting? rule.name = some setting → ¬ setting.Runs override := by
  constructor
  · intro h setting override hs hruns
    have hactive : activate? config rule = some ⟨rule, override⟩ :=
      activate?_eq_some_iff.2 ⟨rfl, setting, hs, hruns⟩
    rw [h] at hactive
    cases hactive
  · intro h
    cases ha : activate? config rule with
    | none => rfl
    | some active =>
      obtain ⟨-, setting, hs, hruns⟩ := activate?_eq_some_iff.1 ha
      exact absurd hruns (h setting _ hs)

end Registry

namespace Linter

/-- The issues that a rule adds to the result of a text: none where no setting makes it run, its own
where a setting lets them be, and its own with another severity where a setting gives one. -/
inductive Contribution (config : Config) (script : Sql.Script) (source : Source) (rule : Rule) :
    List Issue → Prop
  | idle (h : ∀ setting override, config.setting? rule.name = some setting →
      ¬ setting.Runs override) : Contribution config script source rule []
  | asReported {setting : Setting} (hs : config.setting? rule.name = some setting)
    (hruns : setting.Runs none) :
    Contribution config script source rule (rule.check script source)
  | overridden {setting : Setting} {severity : Severity}
    (hs : config.setting? rule.name = some setting) (hruns : setting.Runs (some severity)) :
    Contribution config script source rule
      ((rule.check script source).map fun issue => { issue with severity })

/-- The block of a rule is its contribution, whether the rule runs or not. -/
theorem contribution_block (config : Config) (script : Sql.Script) (source : Source) (rule : Rule) :
    Contribution config script source rule (block config script source rule) := by
  cases h : Registry.activate? config rule with
  | none =>
    have hblock : block config script source rule = [] := by rw [block, h]; rfl
    rw [hblock]
    exact .idle (Registry.activate?_eq_none_iff.1 h)
  | some active =>
    have hblock : block config script source rule = active.check script source := by
      rw [block, h, Option.toList_some, List.flatMap_singleton]
    obtain ⟨rfl, setting, hs, hruns⟩ := Registry.activate?_eq_some_iff.1 h
    rw [hblock, ActiveRule.check]
    cases ho : active.override? with
    | none => exact .asReported hs (ho ▸ hruns)
    | some severity => exact .overridden hs (ho ▸ hruns)

/-- The issues of a text that is read are the contributions of all rules, in the order of these. -/
theorem exists_contributions {config : Config} {source : Source} {parser : Sql.Parser}
    {script : Sql.Script} (h : Sql.Script.parse config.dialect source.text parser = .ok script)
    (registry : Registry) :
    ∃ blocks, issues config registry source parser = blocks.flatten
      ∧ List.Forall₂ (Contribution config script source) registry.rules blocks := by
  refine ⟨registry.rules.map (block config script source), ?_, ?_⟩
  · rw [issues_of_ok h, List.flatMap_def]
  · rw [List.forall₂_map_right_iff, List.forall₂_same]
    exact fun rule _ => contribution_block config script source rule

/-- The issue of a text that cannot be read starts where the error is placed, if it is, and has no
end. -/
theorem parseErrorIssue_eq (e : ParseError) :
    parseErrorIssue e =
      { rule := "parse-error", severity := .error, message := "SQL Parse Error: " ++ e.message
        line := e.location.map (·.start.line), column := e.location.map (·.start.column)
        endLine := none, endColumn := none } := by
  unfold parseErrorIssue
  cases e.location <;> rfl

/-- **The result of linting.** A text that the parser refuses gives one issue that tells why, whatever
the rules and their settings. One that it reads gives the contributions of the rules, one after the
other in the order of the registry. The counts are those of the issues in the result. -/
theorem lint_result (config : Config) (registry : Registry) (source : Source) (parser : Sql.Parser) :
    let result := lint config registry source parser
    result.filename = source.filename
    ∧ (∀ e, Sql.Script.parse config.dialect source.text parser = .error e →
      result.issues =
        [{ rule := "parse-error", severity := .error, message := "SQL Parse Error: " ++ e.message
           line := e.location.map (·.start.line), column := e.location.map (·.start.column)
           endLine := none, endColumn := none }]
      ∧ result.errorCount = 1 ∧ result.warningCount = 0)
    ∧ (∀ script, Sql.Script.parse config.dialect source.text parser = .ok script →
      ∃ blocks, result.issues = blocks.flatten
        ∧ List.Forall₂ (Contribution config script source) registry.rules blocks)
    ∧ result.errorCount = (result.issues.filter (·.severity = .error)).length
    ∧ result.warningCount = (result.issues.filter (·.severity = .warning)).length := by
  intro result
  refine ⟨rfl, ?_, ?_, List.countP_eq_length_filter, List.countP_eq_length_filter⟩
  · intro e h
    have hresult : result = .ofIssues source.filename [parseErrorIssue e] := by
      rw [← issues_of_error h registry]
      rfl
    rw [hresult, parseErrorIssue_eq]
    exact ⟨rfl, rfl, rfl⟩
  · intro script h
    exact exists_contributions h registry

/-- There are texts of both kinds: an open quotation is refused, and a query is read. Of two rules that
find something in the query one is given another severity by its setting; the third rule is idle. -/
theorem lint_result_of_both_kinds :
    let parser : Sql.Parser := .standard
    let config : Config :=
      { rules := [("keyword-case", .level "error"), ("no-select-star", .ofSeverity .error)] }
    let query : Source := ⟨"query.sql", "select * from users u", []⟩
    let result := lint config Registry.standard query parser
    (∃ e, Sql.Script.parse config.dialect "'" parser = .error e
      ∧ (lint config Registry.standard ⟨"open.sql", "'", []⟩ parser).errorCount = 1)
    ∧ (∃ script, Sql.Script.parse config.dialect query.text parser = .ok script
      ∧ ∃ blocks, result.issues = blocks.flatten
        ∧ List.Forall₂ (Contribution config script query) Registry.standard.rules blocks)
    ∧ result.issues.map (fun issue => (issue.rule, issue.severity, issue.column)) =
      [("no-select-star", .error, some 8), ("keyword-case", .warning, some 1),
        ("keyword-case", .warning, some 10)]
    ∧ result.errorCount = 1 ∧ result.warningCount = 2 := by
  intro parser config query result
  have hopen : (Sql.Script.parse config.dialect "'" parser).toBool = false := by
    decide +kernel
  have hquery : (Sql.Script.parse config.dialect query.text parser).toBool = true := by
    decide +kernel
  refine ⟨?_, ?_, by decide +kernel, by decide +kernel, by decide +kernel⟩
  · cases h : Sql.Script.parse config.dialect "'" parser with
    | ok script =>
      rw [h] at hopen
      cases hopen
    | error e =>
      have hresult := lint_result config Registry.standard ⟨"open.sql", "'", []⟩ parser
      exact ⟨e, rfl, (hresult.2.1 e h).2.1⟩
  · cases h : Sql.Script.parse config.dialect query.text parser with
    | ok script =>
      have hresult := lint_result config Registry.standard query parser
      exact ⟨script, rfl, hresult.2.2.1 script h⟩
    | error e =>
      rw [h] at hquery
      cases hquery

end Linter

end QueryLint
