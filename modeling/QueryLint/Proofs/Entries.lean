import Mathlib.Data.List.Nodup

/-!
# Entries by name

In a list of entries, each under a name, the first entry of a name counts. Such a list is read by name
only: where no name is there twice, two orders of the same entries read alike (`lookup_perm`), and so
does a list that lost entries of other names (`lookup_filter`).
-/

namespace QueryLint.Entries

variable {α : Type} {name : String} {found : α} {entries : List (String × α)}

/-- The first entry hides the others of its name. -/
theorem lookup_cons (entry : String × α) (entries : List (String × α)) (name : String) :
    List.lookup name (entry :: entries) =
      if name = entry.1 then some entry.2 else entries.lookup name := by
  rw [List.lookup_cons]
  by_cases h : name = entry.1
  · rw [if_pos h, beq_iff_eq.2 h]
  · rw [if_neg h, beq_false_of_ne h]

/-- What is found among entries that were changed is what was found before, changed in its turn. -/
theorem lookup_map {β : Type} (f : String → α → β) (entries : List (String × α)) (name : String) :
    (entries.map fun entry => (entry.1, f entry.1 entry.2)).lookup name =
      (entries.lookup name).map (f name) := by
  induction entries with
  | nil => rfl
  | cons entry rest ih =>
    rw [List.map_cons, lookup_cons, lookup_cons, ih]
    by_cases h : name = entry.1
    · rw [if_pos h, if_pos h, h]
      rfl
    · rw [if_neg h, if_neg h]

/-- Where no name is there twice, what is found under a name is the entry of that name. -/
theorem lookup_eq_some_iff_mem (h : (entries.map Prod.fst).Nodup) :
    entries.lookup name = some found ↔ (name, found) ∈ entries := by
  rw [List.lookup_eq_some_iff]
  constructor
  · rintro ⟨before, after, rfl, -⟩
    exact List.mem_append_right _ List.mem_cons_self
  · intro hmem
    obtain ⟨before, after, rfl⟩ := List.append_of_mem hmem
    refine ⟨before, after, rfl, fun entry hentry => ?_⟩
    -- An earlier entry of the name would be a second one.
    rw [List.map_append, List.nodup_append] at h
    have hne := h.2.2 entry.1 (List.mem_map_of_mem hentry) name
      (List.mem_map_of_mem (f := Prod.fst) List.mem_cons_self)
    exact bne_iff_ne.2 hne.symm

/-- The order of the entries does not matter to what is found. -/
theorem lookup_perm {entries' : List (String × α)} (hperm : entries.Perm entries')
    (h : (entries.map Prod.fst).Nodup) (name : String) :
    entries.lookup name = entries'.lookup name := by
  have h' : (entries'.map Prod.fst).Nodup := (hperm.map Prod.fst).nodup_iff.1 h
  refine Option.ext fun found => ?_
  rw [lookup_eq_some_iff_mem h, lookup_eq_some_iff_mem h', hperm.mem_iff]

/-- Entries of other names do not matter to what is found. -/
theorem lookup_filter (keep : String → Bool) (hkeep : keep name = true)
    (entries : List (String × α)) :
    (entries.filter fun entry => keep entry.1).lookup name = entries.lookup name := by
  induction entries with
  | nil => rfl
  | cons entry rest ih =>
    rw [List.filter_cons, lookup_cons]
    by_cases hentry : keep entry.1 = true
    · rw [if_pos hentry, lookup_cons, ih]
    · have hne : name ≠ entry.1 := fun h => hentry (h ▸ hkeep)
      rw [if_neg hentry, if_neg hne, ih]

end QueryLint.Entries
