import QueryLint.Proofs.Entries
import QueryLint.Proofs.Linter.Block
import QueryLint.Proofs.Registry
import QueryLint.Proofs.Setting

/-!
# The severities in a result

Which severity the issues of a rule will have can be told before the rule has looked at anything:
the one that the rule's setting gives, or else the rule's own (`ActiveRule.severity`). That takes it
for granted that a rule leaves everything it reports at its own severity. The rules of the program
do (`Registry.signs_of_mem_standard`), so that a result is made of blocks, one for each rule that runs,
and each block has one name and the one severity that was foretold.

It follows that the bare name of a severity is short for a list with the rule's own severity:
`Registry.spellOut` writes all such settings out, and no result changes.
-/

namespace QueryLint

/-- The setting with a list of one severity in place of the bare name of any. What names no severity
stays as it is. -/
def Setting.spelledOut (severity : Severity) : Setting → Setting
  | .level name => if (Severity.ofName? name).isSome then .ofSeverity severity else .level name
  | setting => setting

/-- The configuration with the bare names written out: a rule of the registry that runs by one has a
list of its own severity instead. -/
def Registry.spellOut (registry : Registry) (config : Config) : Config :=
  { config with rules := config.rules.map fun entry =>
      (entry.1, (registry.get? entry.1).elim entry.2 fun rule => entry.2.spelledOut rule.severity) }

namespace Setting

/-- A list with the name of a severity is of that severity. -/
theorem severity?_ofSeverity (severity : Severity) : (ofSeverity severity).severity? = some severity :=
  severity?_list_eq_some_iff.2 ⟨[], rfl⟩

/-- Either nothing was to be written out, or the setting made its rule run with no severity in place
of the rule's own. -/
theorem spelledOut_cases (severity : Severity) (setting : Setting) :
    setting.spelledOut severity = setting
      ∨ setting.severity?.isSome ∧ setting.override? = none
        ∧ setting.spelledOut severity = ofSeverity severity := by
  cases setting with
  | level name =>
    rw [spelledOut, severity?_level]
    by_cases h : (Severity.ofName? name).isSome
    · rw [if_pos h]
      exact .inr ⟨h, rfl, rfl⟩
    · rw [if_neg h]
      exact .inl rfl
  | toggle on => exact .inl rfl
  | list items => exact .inl rfl
  | other value => exact .inl rfl

end Setting

namespace Registry

variable {registry : Registry} {rule : Rule}

/-- What is written out for a rule is the rule's own setting, with the rule's own severity. -/
theorem setting?_spellOut (h : registry.get? rule.name = some rule) (config : Config) :
    (registry.spellOut config).setting? rule.name =
      (config.setting? rule.name).map (Setting.spelledOut rule.severity) := by
  have hlookup := Entries.lookup_map
    (fun name (setting : Setting) => (registry.get? name).elim setting fun rule =>
      setting.spelledOut rule.severity) config.rules rule.name
  rw [h] at hlookup
  exact hlookup

end Registry

namespace Linter

variable {registry : Registry} {rule : Rule} {config : Config} {script : Sql.Script}
  {source : Source}

/-- Giving a rule that signs its own severity changes nothing. -/
theorem check_own_severity (hsigns : rule.Signs) :
    (⟨rule, some rule.severity⟩ : ActiveRule).check script source =
      (⟨rule, none⟩ : ActiveRule).check script source := by
  have hsame : ∀ issue ∈ rule.check script source,
      { issue with severity := rule.severity } = issue := by
    intro issue hissue
    rw [← (hsigns script source issue hissue).2]
  exact (List.map_congr_left hsame).trans (List.map_id _)

/-- A rule that signs adds the same to a result when its setting is written out. -/
theorem block_spellOut (hsigns : rule.Signs) (hget : registry.get? rule.name = some rule) :
    block (registry.spellOut config) script source rule = block config script source rule := by
  have hsetting := Registry.setting?_spellOut hget config
  rw [block, block, Registry.activate?_eq, Registry.activate?_eq, hsetting]
  cases config.setting? rule.name with
  | none => rfl
  | some setting =>
    rw [Option.map_some, Option.bind_some, Option.bind_some]
    rcases setting.spelledOut_cases rule.severity with h | ⟨hsome, hoverride, h⟩
    · rw [h]
    · -- The rule ran at its own severity, and now it is given that severity.
      obtain ⟨named, hnamed⟩ := Option.isSome_iff_exists.1 hsome
      have hlist : (Setting.ofSeverity rule.severity).override? = some rule.severity :=
        Setting.severity?_ofSeverity rule.severity
      rw [h, hnamed, hoverride, hlist, Setting.severity?_ofSeverity, Option.map_some,
        Option.map_some, Option.toList_some, Option.toList_some, List.flatMap_singleton,
        List.flatMap_singleton]
      exact check_own_severity hsigns

/-- Where all rules of a registry sign and are found under their names, settings can be written
out. -/
theorem lint_spellOut (hsigns : ∀ rule ∈ registry.rules, rule.Signs)
    (hget : ∀ rule ∈ registry.rules, registry.get? rule.name = some rule) (config : Config)
    (source : Source) (parser : Sql.Parser) :
    lint (registry.spellOut config) registry source parser = lint config registry source parser := by
  have hdialect : (registry.spellOut config).dialect = config.dialect := rfl
  have hissues : issues (registry.spellOut config) registry source parser =
      issues config registry source parser := by
    cases hparse : Sql.Script.parse config.dialect source.text parser with
    | error e => rw [issues_of_error (hdialect ▸ hparse), issues_of_error hparse]
    | ok script =>
      rw [issues_of_ok (hdialect ▸ hparse), issues_of_ok hparse]
      exact List.flatMap_congr fun rule hrule => block_spellOut (hsigns rule hrule) (hget rule hrule)
  rw [lint, lint, hissues]

/-- **Every rule has one severity in a result.** The issues of a text that a parser reads are blocks, one
for each rule that runs and in the order of those: what the rule reports, all of it under the rule's
name and with the severity that is expected of the rule. So nothing changes, in whatever text, when the
bare names of severities are written out as lists of the rules' own severities. -/
theorem lint_severities (config : Config) (source : Source) (parser : Sql.Parser) :
    (∀ script, Sql.Script.parse config.dialect source.text parser = .ok script →
      ∃ blocks, (lint config Registry.standard source parser).issues = blocks.flatten
        ∧ List.Forall₂ (fun active block => block = active.check script source
            ∧ ∀ issue ∈ block, issue.rule = active.rule.name ∧ issue.severity = active.severity)
          (Registry.standard.active config) blocks)
    ∧ lint (Registry.standard.spellOut config) Registry.standard source parser =
      lint config Registry.standard source parser := by
  constructor
  · intro script h
    refine ⟨(Registry.standard.active config).map (·.check script source), ?_, ?_⟩
    · rw [lint, LintResult.ofIssues, issues, h, ← List.flatMap_def]
    · refine List.forall₂_map_right_iff.2 (List.forall₂_same.2 fun active hactive => ⟨rfl, ?_⟩)
      have hsigns := Registry.signs_of_mem_standard (Registry.mem_of_mem_active hactive)
      exact active.signs_check hsigns script source
  · refine lint_spellOut (fun _ => Registry.signs_of_mem_standard) (fun rule hrule => ?_) config source
      parser
    rw [Registry.standard_rules] at hrule
    simp only [List.mem_cons, List.not_mem_nil, or_false] at hrule
    rcases hrule with rfl | rfl | rfl <;> rfl

/-- A rule that runs by the bare name of one severity reports at another, which is its own; next to it
a rule reports at the severity that a list gives it. -/
theorem lint_severities_bare_name :
    let config : Config :=
      { rules := [("keyword-case", .level "error"), ("no-select-star", .ofSeverity .error)] }
    let parser : Sql.Parser := .standard
    let source : Source := ⟨"query.sql", "select * FROM users", []⟩
    (∃ script, Sql.Script.parse config.dialect source.text parser = .ok script
      ∧ ∃ blocks, (lint config Registry.standard source parser).issues = blocks.flatten
        ∧ List.Forall₂ (fun active block => block = active.check script source
            ∧ ∀ issue ∈ block, issue.rule = active.rule.name ∧ issue.severity = active.severity)
          (Registry.standard.active config) blocks)
    ∧ (lint config Registry.standard source parser).warningCount = 1
    ∧ (lint config Registry.standard source parser).errorCount = 1
    ∧ lint { rules := [("keyword-case", .ofSeverity .warning), ("no-select-star", .ofSeverity .error)] }
        Registry.standard source parser =
      lint config Registry.standard source parser := by
  intro config parser source
  obtain ⟨hblocks, hwritten⟩ := lint_severities config source parser
  have hparse : (Sql.Script.parse config.dialect source.text parser).toBool = true := by
    decide +kernel
  refine ⟨?_, by decide +kernel, by decide +kernel, hwritten⟩
  cases h : Sql.Script.parse config.dialect source.text parser with
  | ok script => exact ⟨script, rfl, hblocks script h⟩
  | error e =>
    rw [h] at hparse
    cases hparse

end Linter

end QueryLint
