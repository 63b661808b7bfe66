import QueryLint.Proofs.Rule.KeywordCase
import QueryLint.Proofs.Rule.NoSelectStar
import QueryLint.Proofs.Rule.TableAlias
import QueryLint.Registry

/-!
# What registries hold

A rule is added behind those that are there, unless one of them has its name: `names_add` says what
this does to the names, `get?_add` what it does to what is found under a name.

The rules that come with the program put their names to everything they report, and leave it at
their severities (`Rule.Signs`), whatever they are asked about. A rule's issues can therefore be told
from those of the others by their names.
-/

namespace QueryLint

/-- The issues of a rule carry its name and have its severity. -/
def Rule.Signs (rule : Rule) : Prop :=
  ∀ script source, ∀ issue ∈ rule.check script source,
    issue.rule = rule.name ∧ issue.severity = rule.severity

/-- The rule on stars reports under its name and at its severity. -/
theorem NoSelectStar.signs : NoSelectStar.rule.Signs := by
  intro script source issue h
  obtain ⟨s, -, hs⟩ := List.mem_flatMap.1 ((check_perm script).mem_iff.1 h)
  obtain ⟨hrule, hseverity, -⟩ := fields_of_mem_starIssues hs
  exact ⟨hrule, hseverity⟩

/-- So does the rule on keywords, for every one of them. -/
theorem KeywordCase.signs : KeywordCase.rule.Signs := by
  intro script source issue h
  obtain ⟨number, line, -, keyword, -, word, -, rfl⟩ := mem_scan.1 h
  exact ⟨rfl, rfl⟩

/-- So does the rule on aliases, wherever it finds them. -/
theorem TableAlias.signs : TableAlias.rule.Signs := by
  intro script source issue h
  have h : issue ∈ aliasIssues ((visitedLists script).flatten.flatMap relationParts) :=
    check_eq script ▸ h
  obtain ⟨text, -, rfl⟩ := List.mem_map.1 h
  exact ⟨rfl, rfl⟩

/-- What an active rule reports is signed by the rule, and has the severity that is expected of it. -/
theorem ActiveRule.signs_check {active : ActiveRule} (h : active.rule.Signs) (script : Sql.Script)
    (source : Source) : ∀ issue ∈ active.check script source,
      issue.rule = active.rule.name ∧ issue.severity = active.severity := by
  intro issue hissue
  unfold ActiveRule.check at hissue
  unfold ActiveRule.severity
  cases ho : active.override? with
  | none =>
    rw [ho] at hissue
    exact h script source issue hissue
  | some severity =>
    rw [ho] at hissue
    obtain ⟨reported, hreported, rfl⟩ := List.mem_map.1 hissue
    exact ⟨(h script source reported hreported).1, rfl⟩

namespace Registry

theorem standard_rules :
    standard.rules = [NoSelectStar.rule, KeywordCase.rule, TableAlias.rule] := rfl

/-- Every rule that comes with the program signs its issues. -/
theorem signs_of_mem_standard {rule : Rule} (h : rule ∈ standard.rules) : rule.Signs := by
  rw [standard_rules] at h
  simp only [List.mem_cons, List.not_mem_nil, or_false] at h
  rcases h with rfl | rfl | rfl
  · exact NoSelectStar.signs
  · exact KeywordCase.signs
  · exact TableAlias.signs

variable {registry : Registry} {rule : Rule} {name : String}

/-- The name of a rule is taken when the registry has a rule of it. -/
theorem isSome_get?_iff : (registry.get? name).isSome ↔ name ∈ registry.names := by
  simp only [get?, names, List.find?_isSome, List.mem_map, beq_iff_eq]

/-- A rule goes to the end, unless its name is taken. -/
theorem names_add : (registry.add rule).names =
    if rule.name ∈ registry.names then registry.names else registry.names ++ [rule.name] := by
  unfold add
  by_cases h : rule.name ∈ registry.names
  · rw [if_pos (isSome_get?_iff.2 h), if_pos h]
  · rw [if_neg (fun hsome => h (isSome_get?_iff.1 hsome)), if_neg h, names, List.map_append]
    rfl

/-- A rule that is added is found under its name if none was found before. -/
theorem get?_add : (registry.add rule).get? name =
    (registry.get? name).or (if rule.name = name then some rule else none) := by
  unfold add
  by_cases h : (registry.get? rule.name).isSome = true
  · -- The registry stays as it is, and has a rule of the name already.
    rw [if_pos h]
    by_cases hname : rule.name = name
    · obtain ⟨first, hfirst⟩ := Option.isSome_iff_exists.1 (hname ▸ h)
      rw [hfirst, Option.some_or]
    · rw [if_neg hname, Option.or_none]
  · rw [if_neg h, get?, List.find?_append, List.find?_singleton]
    simp only [beq_iff_eq]
    rfl

end Registry

end QueryLint
