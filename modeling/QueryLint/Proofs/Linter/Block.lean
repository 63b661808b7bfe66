import Mathlib.Data.List.Basic
import QueryLint.Linter

/-!
# The blocks of a result

The issues of a text that can be read are made of blocks, one for each rule of the registry, empty
for a rule that does not run (`issues_of_ok`). Of the configuration a block asks for one thing: how
the setting under the name of its rule makes that rule run (`Registry.activate?_eq`).
-/

namespace QueryLint

namespace Registry

/-- A rule runs as its setting says, if it has one. -/
theorem activate?_eq (config : Config) (rule : Rule) :
    activate? config rule = (config.setting? rule.name).bind fun setting =>
      setting.severity?.map fun _ => ⟨rule, setting.override?⟩ := by
  unfold activate?
  cases config.setting? rule.name with
  | none => rfl
  | some setting => cases h : setting.severity? <;> simp [h]

/-- What runs is the rule itself. -/
theorem rule_of_activate? {config : Config} {rule : Rule} {active : ActiveRule}
    (h : activate? config rule = some active) : active.rule = rule := by
  rw [activate?_eq] at h
  obtain ⟨setting, -, hmap⟩ := Option.bind_eq_some_iff.1 h
  obtain ⟨severity, -, rfl⟩ := Option.map_eq_some_iff.1 hmap
  rfl

/-- The rules that run are rules of the registry. -/
theorem mem_of_mem_active {registry : Registry} {config : Config} {active : ActiveRule}
    (h : active ∈ registry.active config) : active.rule ∈ registry.rules := by
  obtain ⟨rule, hrule, hactive⟩ := List.mem_filterMap.1 h
  rw [rule_of_activate? hactive]
  exact hrule

/-- No rule runs whose setting names no severity, or that has none. -/
theorem activate?_eq_none {config : Config} {rule : Rule}
    (h : ∀ setting ∈ config.setting? rule.name, setting.severity? = none) :
    activate? config rule = none := by
  rw [activate?_eq]
  cases hs : config.setting? rule.name with
  | none => rfl
  | some setting => rw [Option.bind_some, h setting hs, Option.map_none]

/-- A rule runs whose setting names a severity. -/
theorem activate?_eq_some {config : Config} {rule : Rule} {setting : Setting}
    (hs : config.setting? rule.name = some setting) (h : setting.severity?.isSome) :
    activate? config rule = some ⟨rule, setting.override?⟩ := by
  obtain ⟨severity, hseverity⟩ := Option.isSome_iff_exists.1 h
  rw [activate?_eq, hs, Option.bind_some, hseverity, Option.map_some]

end Registry

namespace Linter

/-- The issues that a rule adds to the result of a text. -/
def block (config : Config) (script : Sql.Script) (source : Source) (rule : Rule) : List Issue :=
  (Registry.activate? config rule).toList.flatMap fun active => active.check script source

/-- The issues of a text that can be read are the blocks of the rules, in their order. -/
theorem issues_of_ok {config : Config} {source : Source} {parser : Sql.Parser} {script : Sql.Script}
    (h : Sql.Script.parse config.dialect source.text parser = .ok script) (registry : Registry) :
    issues config registry source parser =
      registry.rules.flatMap (block config script source) := by
  unfold issues block
  rw [h, ← List.flatMap_assoc, ← List.filterMap_eq_flatMap_toList]
  rfl

/-- The issues of a text that cannot be read are one, which says so. -/
theorem issues_of_error {config : Config} {source : Source} {parser : Sql.Parser} {e : ParseError}
    (h : Sql.Script.parse config.dialect source.text parser = .error e) (registry : Registry) :
    issues config registry source parser = [parseErrorIssue e] := by
  rw [issues, h]

end Linter

end QueryLint
