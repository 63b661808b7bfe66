import QueryLint.Setting

/-!
# What settings say

A setting makes its rule run in two ways only: as the bare name of a severity, or as a list that
starts with such a name. `Setting.Runs` is this rule, with the severity that replaces those of the
rule's issues; `runs_iff` says that `Setting.severity?` and `Setting.override?` decide it.
-/

namespace QueryLint

namespace Severity

@[simp] theorem ofName?_name (severity : Severity) : ofName? severity.name = some severity := by
  cases severity <;> decide

/-- A text names a severity exactly when it is the severity's own name, letter by letter. -/
theorem ofName?_eq_some_iff {text : String} {severity : Severity} :
    ofName? text = some severity ↔ text = severity.name := by
  constructor
  · intro h
    have hfound : (severity.name == text) = true :=
      List.find?_some (p := fun severity : Severity => severity.name == text) h
    exact (beq_iff_eq.1 hfound).symm
  · rintro rfl
    exact ofName?_name severity

end Severity

namespace Setting

/-- A setting makes its rule run. The bare name of a severity leaves the rule's issues as they are;
a list that starts with one gives all of them that severity. -/
inductive Runs : Setting → Option Severity → Prop
  | level (severity : Severity) : Runs (level severity.name) none
  | list (severity : Severity) (rest : List Json) :
    Runs (list (.string severity.name :: rest)) (some severity)

/-- A bare name gives the severity that it is the name of. -/
theorem severity?_level (name : String) : (level name).severity? = Severity.ofName? name := rfl

/-- A list gives the severity whose name it starts with. -/
theorem severity?_list_eq_some_iff {items : List Json} {severity : Severity} :
    (list items).severity? = some severity ↔
      ∃ rest, items = .string severity.name :: rest := by
  constructor
  · intro h
    -- A list is no switch, so its severity is what its first item names.
    change (items.head?.bind Json.string?).bind Severity.ofName? = some severity at h
    obtain ⟨text, htext, hname⟩ := Option.bind_eq_some_iff.1 h
    obtain ⟨item, hitem, hstring⟩ := Option.bind_eq_some_iff.1 htext
    cases items with
    | nil => simp at hitem
    | cons first rest =>
      cases first with
      | string s =>
        obtain rfl : Json.string s = item := Option.some.inj hitem
        obtain rfl : s = text := Option.some.inj hstring
        exact ⟨rest, by rw [Severity.ofName?_eq_some_iff.1 hname]⟩
      | _ =>
        obtain rfl := Option.some.inj hitem
        cases hstring
  · rintro ⟨rest, rfl⟩
    exact Severity.ofName?_name severity

/-- Settings make rules run as `severity?` and `override?` say. -/
theorem runs_iff {setting : Setting} {override : Option Severity} :
    setting.Runs override ↔ setting.severity?.isSome ∧ setting.override? = override := by
  constructor
  · rintro (⟨severity⟩ | ⟨severity, rest⟩)
    · rw [severity?_level, Severity.ofName?_name]
      exact ⟨rfl, rfl⟩
    · have h : (list (.string severity.name :: rest)).severity? = some severity :=
        severity?_list_eq_some_iff.2 ⟨rest, rfl⟩
      exact ⟨by rw [h]; rfl, h⟩
  · rintro ⟨hsome, rfl⟩
    obtain ⟨severity, h⟩ := Option.isSome_iff_exists.1 hsome
    cases setting with
    | toggle on => cases on <;> cases h
    | other value => cases h
    | level name =>
      rw [severity?_level, Severity.ofName?_eq_some_iff] at h
      subst h
      exact Runs.level severity
    | list items =>
      obtain ⟨rest, rfl⟩ := severity?_list_eq_some_iff.1 h
      rw [override?, h]
      exact Runs.list severity rest

end Setting

end QueryLint
