import QueryLint.Dialect
import QueryLint.Proofs.Entries
import QueryLint.Proofs.Text.Lowercase

/-!
# The two readers of dialect names

A configuration takes names as they are, the command line in any case and by the lower-case forms of
all scripts. None of the names that it knows has a `k`, so these forms make no difference to it: a name
is known if it is one of eight once its ASCII letters are small (`parse_eq_ok_iff`). Seven of them are
those of configurations, with the same dialects (`names_agree`).
-/

namespace QueryLint.Dialect

open Text

/-- The names that the command line knows, in small letters, with their dialects. -/
def lowerNames : List (String × Dialect) :=
  [("postgresql", postgres), ("postgres", postgres), ("pg", postgres), ("mysql", mysql),
    ("mysql8", mysql), ("sqlite", sqlite), ("generic", generic), ("ansi", generic)]

/-- Alternatives of a name with one dialect can be looked up one by one. -/
theorem ofLowerName?_eq_lookup (name : String) : ofLowerName? name = lowerNames.lookup name := by
  simp only [ofLowerName?, lowerNames, Entries.lookup_cons, List.lookup_nil, Bool.or_eq_true,
    decide_eq_true_eq]
  grind

/-- The names in small letters are those of the list, each for its dialect. -/
theorem ofLowerName?_eq_some_iff {name : String} {dialect : Dialect} :
    ofLowerName? name = some dialect ↔ (name, dialect) ∈ lowerNames := by
  rw [ofLowerName?_eq_lookup]
  exact Entries.lookup_eq_some_iff_mem (by decide)

/-- The names in configurations are those of the other list. -/
theorem ofName?_eq_some_iff {name : String} {dialect : Dialect} :
    ofName? name = some dialect ↔ (name, dialect) ∈ configNames :=
  Entries.lookup_eq_some_iff_mem (by decide)

theorem toLower_eq (name : String) :
    name.toLower = String.ofList (name.toList.map Char.toLower) := by
  change name.map Char.toLower = _
  rw [← String.toList_map, String.ofList_toList]

/-- The names are in ASCII, and none of them has a `k`. -/
theorem lowerNames_ascii :
    ∀ entry ∈ lowerNames, ∀ c ∈ entry.1.toList, c.toNat < 128 ∧ c ≠ 'k' := by
  -- Deciding the statement itself may mean going through all characters that there are.
  have hall : ∀ entry ∈ lowerNames, (entry.1.toList.all fun c =>
      decide (c.toNat < 128 ∧ c ≠ 'k')) = true := by
    decide
  intro entry hentry c hc
  exact of_decide_eq_true (List.all_eq_true.1 (hall entry hentry) c hc)

/-- The command line only looks at the case of ASCII letters. -/
theorem parse_eq_ok_iff {name : String} {dialect : Dialect} :
    parse name = .ok dialect ↔ (name.toLower, dialect) ∈ lowerNames := by
  have hparse : parse name = .ok dialect ↔
      ofLowerName? (String.ofList (lowercase name.toList)) = some dialect := by
    rw [parse]
    cases ofLowerName? (String.ofList (lowercase name.toList)) <;> simp
  rw [hparse, ofLowerName?_eq_some_iff]
  rw [toLower_eq]
  -- Either text is in the list if it is one of the names, and for a name the two are equivalent.
  have hiff : ∀ entry ∈ lowerNames, String.ofList (lowercase name.toList) = entry.1 ↔
      String.ofList (name.toList.map Char.toLower) = entry.1 := by
    intro entry hentry
    rw [← String.toList_inj, ← String.toList_inj, String.toList_ofList, String.toList_ofList]
    exact lowercase_eq_iff (lowerNames_ascii entry hentry)
  constructor
  · intro h
    rwa [(hiff _ h).1 rfl]
  · intro h
    rwa [(hiff _ h).2 rfl]

/-- The capital I with a dot is no capital of a plain `i`. -/
example : parse "GENERİC" = .error (unknown "GENERİC") := by rfl

/-- The names of configurations are those of the command line without one. -/
theorem names_agree {name : String} {dialect : Dialect} :
    (name, dialect) ∈ configNames ↔ (name, dialect) ∈ lowerNames ∧ name ≠ "ansi" := by
  simp only [configNames, lowerNames, List.mem_cons, Prod.mk.injEq, List.not_mem_nil, or_false]
  grind

/-- **The two readers of dialect names agree.** A name that a configuration may use is known to the
command line, for the same dialect. The command line knows just the names that are one of eight when
their ASCII letters are made small, whatever letters of other scripts become; all of these but one a
configuration may use, for the same dialect. The names under which a dialect is shown and written are
names of it to both. -/
theorem readers_agree :
    (∀ name dialect, ofName? name = some dialect → parse name = .ok dialect)
      ∧ (∀ name, (∃ dialect, parse name = .ok dialect) ↔
        name.toLower ∈ ["postgresql", "postgres", "pg", "mysql", "mysql8", "sqlite", "generic", "ansi"])
      ∧ (∀ name dialect, parse name = .ok dialect → name.toLower ≠ "ansi" →
        ofName? name.toLower = some dialect)
      ∧ ∀ dialect : Dialect, ∀ name ∈ [dialect.displayName, dialect.configName],
        ofName? name = some dialect ∧ parse name = .ok dialect := by
  -- The names of configurations have no capitals.
  have hsmall : ∀ entry ∈ configNames, entry.1.toLower = entry.1 := by
    simp only [toLower_eq]
    decide
  have hagree : ∀ name dialect, ofName? name = some dialect → parse name = .ok dialect := by
    intro name dialect h
    rw [ofName?_eq_some_iff] at h
    rw [parse_eq_ok_iff, hsmall _ h]
    exact (names_agree.1 h).1
  refine ⟨hagree, fun name => ?_, fun name dialect h hansi => ?_, fun dialect name hname => ?_⟩
  · simp only [parse_eq_ok_iff]
    constructor
    · rintro ⟨dialect, h⟩
      exact List.mem_map_of_mem (f := Prod.fst) h
    · intro h
      have hmem : name.toLower ∈ lowerNames.map Prod.fst := h
      obtain ⟨entry, hentry, heq⟩ := List.mem_map.1 hmem
      exact ⟨entry.2, heq ▸ hentry⟩
  · rw [parse_eq_ok_iff] at h
    rw [ofName?_eq_some_iff]
    exact names_agree.2 ⟨h, hansi⟩
  · have hread : ofName? name = some dialect := by
      revert name
      cases dialect <;> decide
    exact ⟨hread, hagree name dialect hread⟩

/-- A name of both readers, and one in large and small letters. -/
theorem readers_agree_mixed_case :
    (ofName? "mysql8" = some mysql ∧ parse "mysql8" = .ok mysql)
      ∧ parse "PostgreSQL" = .ok postgres ∧ "PostgreSQL".toLower ≠ "ansi"
      ∧ ofName? "PostgreSQL".toLower = some postgres
      ∧ ofName? (displayName postgres) = some postgres := by
  have hboth : ofName? "mysql8" = some mysql := by decide
  have hmixed : parse "PostgreSQL" = .ok postgres := by rfl
  have hansi : "PostgreSQL".toLower ≠ "ansi" := by
    rw [toLower_eq]
    decide
  exact ⟨⟨hboth, readers_agree.1 _ _ hboth⟩, hmixed, hansi, readers_agree.2.2.1 _ _ hmixed hansi,
    (readers_agree.2.2.2 postgres _ List.mem_cons_self).1⟩

end QueryLint.Dialect
