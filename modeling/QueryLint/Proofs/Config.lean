import QueryLint.Config.Basic
import QueryLint.Proofs.Entries

/-!
# Settings as a table

The settings of a configuration are a table by the names of rules, kept in the order of first
naming. `lookup_set` says what giving a setting does to what is found under a name, `names_set` what
it does to the order.
-/

namespace QueryLint

namespace Settings

open Entries

variable {name other : String} {setting : Setting} {settings : Settings}

/-- The names of the rules that have a setting, in order. -/
def names (settings : Settings) : List String := settings.map Prod.fst

/-- A setting that was given is found under its name, and nothing else changes. -/
theorem lookup_set (settings : Settings) :
    (set name setting settings).lookup other =
      if other = name then some setting else settings.lookup other := by
  induction settings with
  | nil => exact lookup_cons _ _ _
  | cons entry rest ih =>
    rw [set]
    by_cases hfirst : entry.1 = name
    · -- The entry is there, and loses its setting to the new one.
      rw [if_pos hfirst, lookup_cons, lookup_cons, hfirst]
      split <;> rfl
    · rw [if_neg hfirst, lookup_cons, lookup_cons, ih]
      by_cases h : other = entry.1
      · have hne : other ≠ name := fun heq => hfirst (h.symm.trans heq)
        rw [if_pos h, if_neg hne, if_pos h]
      · rw [if_neg h, if_neg h]

/-- A setting that was given stands in place of the old one, or else at the end. -/
theorem names_set (settings : Settings) :
    names (set name setting settings) =
      if name ∈ names settings then names settings else names settings ++ [name] := by
  induction settings with
  | nil => rfl
  | cons entry rest ih =>
    unfold names at ih ⊢
    rw [set]
    by_cases hfirst : entry.1 = name
    · rw [if_pos hfirst, List.map_cons, List.map_cons, hfirst, if_pos List.mem_cons_self]
    · rw [if_neg hfirst, List.map_cons, List.map_cons, ih]
      by_cases h : name ∈ rest.map Prod.fst
      · rw [if_pos h, if_pos (List.mem_cons_of_mem _ h)]
      · have hcons : name ∉ entry.1 :: rest.map Prod.fst := by
          intro hmem
          rcases List.mem_cons.1 hmem with heq | hrest
          · exact hfirst heq.symm
          · exact h hrest
        rw [if_neg h, if_neg hcons, List.cons_append]

/-- A setting of a rule that had none goes to the end. -/
theorem set_of_not_mem (h : name ∉ names settings) :
    set name setting settings = settings ++ [(name, setting)] := by
  induction settings with
  | nil => rfl
  | cons entry rest ih =>
    rw [names, List.map_cons, List.mem_cons, not_or] at h
    rw [set, if_neg (Ne.symm h.1), ih h.2, List.cons_append]

/-- Settings of different rules, given one after the other, stand in that order. -/
theorem foldl_set {before settings : Settings} (h : (names (before ++ settings)).Nodup) :
    settings.foldl (fun settings (name, setting) => set name setting settings) before =
      before ++ settings := by
  induction settings generalizing before with
  | nil => rw [List.foldl_nil, List.append_nil]
  | cons entry rest ih =>
    have hnew : entry.1 ∉ names before := by
      rw [names, List.map_append, List.nodup_append] at h
      exact fun hmem => h.2.2 entry.1 hmem entry.1 List.mem_cons_self rfl
    change List.foldl _ (set entry.1 entry.2 before) rest = before ++ entry :: rest
    rw [set_of_not_mem hnew, ih (by rwa [List.append_assoc]), List.append_assoc,
      List.singleton_append]

/-- Of two settings that are given to a rule one after the other the second stays. -/
theorem set_set (first : Setting) (settings : Settings) :
    set name setting (set name first settings) = set name setting settings := by
  induction settings with
  | nil => exact if_pos rfl
  | cons entry rest ih =>
    rw [set, set]
    by_cases h : entry.1 = name
    · rw [if_pos h, if_pos h]
      exact if_pos rfl
    · rw [if_neg h, if_neg h, set, if_neg h, ih]

end Settings

namespace Config

/-- A rule that is given a setting has it, and no other rule is touched. -/
theorem setting?_withRule (config : Config) (name other : String) (setting : Setting) :
    (config.withRule name setting).setting? other =
      if other = name then some setting else config.setting? other :=
  Settings.lookup_set config.rules

/-- Of two settings given to one rule the later stays. -/
theorem withRule_withRule (config : Config) (name : String) (first setting : Setting) :
    (config.withRule name first).withRule name setting = config.withRule name setting := by
  simp only [withRule, Settings.set_set]

end Config

end QueryLint
