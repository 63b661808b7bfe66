import QueryLint.Proofs.Config
import QueryLint.Proofs.Linter.Block
import QueryLint.Proofs.Registry
import QueryLint.Proofs.Setting

/-!
# What a configuration cannot make a difference with

All that linting asks of a configuration is the dialect and, rule by rule, whether the rule runs and
which severity takes the place of the rule's own. Two configurations that answer alike give equal
results (`lint_congr`), so that nothing else that they hold can show: neither the order of their
entries, nor entries without a rule, nor the paths to leave alone, nor what follows the severity in
a list, nor which severity a rule is switched on with by its bare name.
-/

namespace QueryLint

/-- Two settings, each of which may be missing, make the same of a rule: either both leave it idle,
or both make it run, with the same severity in place of its own, or with none. -/
inductive Alike : Option Setting → Option Setting → Prop
  | idle {a b : Option Setting} (ha : ∀ setting ∈ a, setting.severity? = none)
    (hb : ∀ setting ∈ b, setting.severity? = none) : Alike a b
  | running {s t : Setting} (hs : s.severity?.isSome) (ht : t.severity?.isSome)
    (h : s.override? = t.override?) : Alike (some s) (some t)

namespace Alike

/-- Settings with one severity and one override make the same of a rule. -/
theorem of_severity_eq {s t : Setting} (hseverity : s.severity? = t.severity?)
    (hoverride : s.override? = t.override?) : Alike (some s) (some t) := by
  cases h : t.severity? with
  | none =>
    refine .idle (fun setting hs => ?_) (fun setting ht => ?_)
    · rw [← Option.some.inj hs, hseverity, h]
    · rw [← Option.some.inj ht, h]
  | some severity =>
    have ht : t.severity?.isSome := by rw [h]; rfl
    exact .running (hseverity ▸ ht) ht hoverride

theorem refl (a : Option Setting) : Alike a a := by
  cases a with
  | none => exact .idle (fun _ h => nomatch h) (fun _ h => nomatch h)
  | some setting => exact of_severity_eq rfl rfl

theorem of_eq {a b : Option Setting} (h : a = b) : Alike a b :=
  h ▸ refl a

/-- Bare names of severities do the same, whichever severities they are. -/
theorem levels (s t : Severity) :
    Alike (some (.level s.name)) (some (.level t.name)) := by
  have hsome : ∀ severity : Severity, (Setting.level severity.name).severity?.isSome := by
    intro severity
    rw [Setting.severity?_level, Severity.ofName?_name]
    rfl
  exact .running (hsome s) (hsome t) rfl

/-- Of a list only the first item counts. -/
theorem lists (first : Json) (tail tail' : List Json) :
    Alike (some (.list (first :: tail))) (some (.list (first :: tail'))) :=
  of_severity_eq rfl rfl

/-- Settings that make the same of a rule do so in whatever configurations they stand. -/
theorem activate?_eq {a b : Config} {rule : Rule}
    (h : Alike (a.setting? rule.name) (b.setting? rule.name)) :
    Registry.activate? a rule = Registry.activate? b rule := by
  generalize ha : a.setting? rule.name = s at h
  generalize hb : b.setting? rule.name = t at h
  cases h with
  | idle hs ht =>
    rw [Registry.activate?_eq_none (ha ▸ hs), Registry.activate?_eq_none (hb ▸ ht)]
  | running hs ht hoverride =>
    rw [Registry.activate?_eq_some ha hs, Registry.activate?_eq_some hb ht, hoverride]

end Alike

namespace Linter

/-- Configurations that agree on the dialect and treat the rules of a registry alike give equal
results. -/
theorem lint_congr {a b : Config} {registry : Registry} (source : Source) (parser : Sql.Parser)
    (hdialect : a.dialect = b.dialect)
    (h : ∀ rule ∈ registry.rules, Alike (a.setting? rule.name) (b.setting? rule.name)) :
    lint a registry source parser = lint b registry source parser := by
  -- The dialect decides for both whether the text can be read, the settings what its rules add.
  have hissues : issues a registry source parser = issues b registry source parser := by
    cases hparse : Sql.Script.parse b.dialect source.text parser with
    | error e =>
      rw [issues_of_error (hdialect ▸ hparse), issues_of_error hparse]
    | ok script =>
      rw [issues_of_ok (hdialect ▸ hparse), issues_of_ok hparse]
      refine List.flatMap_congr fun rule hrule => ?_
      rw [block, block, (h rule hrule).activate?_eq]
  rw [lint, lint, hissues]

/-- Two settings of one rule that make the same of it can stand for each other. -/
theorem lint_withRule_congr {s t : Setting} (h : Alike (some s) (some t)) (config : Config)
    (registry : Registry) (source : Source) (parser : Sql.Parser) (name : String) :
    lint (config.withRule name s) registry source parser =
      lint (config.withRule name t) registry source parser := by
  refine lint_congr source parser rfl fun rule _ => ?_
  rw [Config.setting?_withRule, Config.setting?_withRule]
  by_cases hname : rule.name = name
  · rw [if_pos hname, if_pos hname]
    exact h
  · rw [if_neg hname, if_neg hname]
    exact .refl _

/-- **What a configuration makes no difference with.** Linting under two configurations with one
dialect, each of which leaves a rule idle where the other does and makes it run with the severity
with which the other does, gives equal results, whatever the parser. So nothing comes of the order of
the entries, of those under names that no rule has, of the patterns of paths to leave alone, of the
items of a list behind the first, of which severity a bare name names, and of naming the dialect that
holds anyway. -/
theorem lint_noninterference (registry : Registry) (source : Source) (parser : Sql.Parser) :
    (∀ a b : Config, a.dialect = b.dialect →
      (∀ rule ∈ registry.rules, Alike (a.setting? rule.name) (b.setting? rule.name)) →
      lint a registry source parser = lint b registry source parser)
    ∧ (∀ (config : Config) (rules : Settings), config.rules.Perm rules →
      (Settings.names config.rules).Nodup →
      lint { config with rules } registry source parser = lint config registry source parser)
    ∧ (∀ config : Config,
      lint { config with
        rules := config.rules.filter fun (name, _) => (registry.get? name).isSome }
        registry source parser = lint config registry source parser)
    ∧ (∀ (config : Config) (ignorePatterns : List String),
      lint { config with ignorePatterns } registry source parser =
        lint config registry source parser)
    ∧ (∀ (config : Config) (name : String) (first : Json) (tail tail' : List Json),
      lint (config.withRule name (.list (first :: tail))) registry source parser =
        lint (config.withRule name (.list (first :: tail'))) registry source parser)
    ∧ (∀ (config : Config) (name : String) (s t : Severity),
      lint (config.withRule name (.level s.name)) registry source parser =
        lint (config.withRule name (.level t.name)) registry source parser)
    ∧ ∀ config : Config, lint { config with dialect? := none } registry source parser =
        lint (config.withDialect .mysql) registry source parser := by
  refine ⟨fun a b => lint_congr source parser, ?_, ?_, ?_, ?_, ?_, ?_⟩
  · intro config rules hperm hnodup
    refine lint_congr source parser rfl fun rule _ => .of_eq ?_
    exact (Entries.lookup_perm hperm hnodup rule.name).symm
  · intro config
    refine lint_congr source parser rfl fun rule hrule => .of_eq ?_
    -- The name of a rule of the registry is one that the registry knows.
    have hknown : (registry.get? rule.name).isSome := by
      rw [Registry.get?, List.find?_isSome]
      exact ⟨rule, hrule, beq_self_eq_true rule.name⟩
    exact Entries.lookup_filter (fun name => (registry.get? name).isSome) hknown config.rules
  · intro config patterns
    exact lint_congr source parser rfl fun rule _ => .refl _
  · intro config name first tail tail'
    exact lint_withRule_congr (.lists first tail tail') config registry source parser name
  · intro config name s t
    exact lint_withRule_congr (.levels s t) config registry source parser name
  · intro config
    exact lint_congr source parser rfl fun rule _ => .refl _

/-- Two configurations that look different and do the same: in the one a rule runs by a bare name,
next to an entry that no rule has, in the other by another name, while a second rule is switched
off. -/
theorem lint_noninterference_of_bare_names :
    let a : Config :=
      { rules := [("no-such-rule", .toggle true), ("keyword-case", .level "error")] }
    let b : Config :=
      { dialect? := some .mysql, ignorePatterns := ["old/*.sql"]
        rules := [("keyword-case", .level "info"), ("table-alias", .toggle false)] }
    let query : Source := ⟨"query.sql", "select * FROM users u", []⟩
    lint a Registry.standard query .standard = lint b Registry.standard query .standard
      ∧ lint { b with rules := b.rules.reverse } Registry.standard query .standard =
        lint b Registry.standard query .standard := by
  intro a b query
  obtain ⟨hcongr, hperm, -⟩ := lint_noninterference Registry.standard query .standard
  refine ⟨hcongr a b rfl fun rule hrule => ?_, hperm b b.rules.reverse ?_ (by decide)⟩
  · rw [Registry.standard_rules] at hrule
    simp only [List.mem_cons, List.not_mem_nil, or_false] at hrule
    rcases hrule with rfl | rfl | rfl
    · exact .refl none
    · exact .levels .error .info
    · exact .idle (fun _ h => nomatch h) (fun setting h => Option.some.inj h ▸ rfl)
  · exact (List.reverse_perm _).symm

end Linter

end QueryLint
