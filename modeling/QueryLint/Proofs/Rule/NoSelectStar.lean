import Mathlib.Algebra.GroupWithZero.Nat
import QueryLint.Proofs.Sql.Selects
import QueryLint.Rule.NoSelectStar

/-!
# What is reported of stars

Two journeys are put together in the rule: through all nodes of a statement, for the queries, and
through the set operators of the body of each, for the selections. `check_stars` says that the
outcome is one issue for each star among the columns of a selection, wherever the selection stands:
by `Statement.perm_selections` the bodies of the queries hold all the selections of the syntax, each
once.

The order of the issues is that of the journeys: statement by statement, a query before those that
stand in it, the selections of a body from left to right, and the columns as they are written.
-/

namespace QueryLint.NoSelectStar

open Sql

/-- A column of a selection stands for all columns, of a table or of all of them. -/
def isStar : SelectItem → Bool
  | .expr _ _ => false
  | .star _ _ => true
  | .starOf _ _ _ => true

/-- One issue for each star among the columns of a selection, in their order. -/
def starIssues (s : Select) : List Issue :=
  s.items.flatMap fun
    | .expr _ _ => []
    | .star span _ => [issueAt span s.span]
    | .starOf _ span _ => [issueAt span s.span]

/-- Going through the columns of a selection is gathering the issues of its stars. -/
theorem checkSelect_eq (s : Select) : checkSelect s = starIssues s := by
  rw [checkSelect, starIssues, List.filterMap_eq_flatMap_toList, List.map_flatMap]
  refine List.flatMap_congr fun item _ => ?_
  cases item <;> rfl

theorem length_starIssues (s : Select) : (starIssues s).length = s.items.countP isStar := by
  unfold starIssues
  induction s.items with
  | nil => rfl
  | cons item rest ih =>
    rw [List.flatMap_cons, List.length_append, ih, List.countP_cons]
    cases item <;> simp [isStar] <;> omega

/-- Wherever it stands, the issue of a star is a warning of the rule and says what the rule says. -/
theorem issueAt_fields (star selection : Span) :
    (issueAt star selection).rule = name ∧ (issueAt star selection).severity = .warning
      ∧ (issueAt star selection).message = message := by
  rw [issueAt]
  split
  next => exact ⟨rfl, rfl, rfl⟩
  next => split <;> exact ⟨rfl, rfl, rfl⟩

/-- All stars are reported alike, except for their places. -/
theorem fields_of_mem_starIssues {s : Select} {issue : Issue} (h : issue ∈ starIssues s) :
    issue.rule = name ∧ issue.severity = .warning ∧ issue.message = message := by
  obtain ⟨item, -, hitem⟩ := List.mem_flatMap.1 h
  cases item with
  | expr e label => cases hitem
  | star span options =>
    obtain rfl := List.mem_singleton.1 hitem
    exact issueAt_fields span s.span
  | starOf table span options =>
    obtain rfl := List.mem_singleton.1 hitem
    exact issueAt_fields span s.span

/-- The rule reports something at queries only: the stars of the selections of their bodies. -/
theorem enter_eq (n : Node) :
    enter n = n.asQuery.flatMap fun q => q.body.selects.flatMap starIssues := by
  cases n with
  | query q =>
    rw [enter, q.selects_eq, Node.asQuery, List.flatMap_singleton]
    exact List.flatMap_congr fun s _ => checkSelect_eq s
  | _ => rfl

/-- The issues come query by query, and selection by selection of the body of the query. -/
theorem check_eq (script : Script) :
    check script = (script.flatMap Statement.queries).flatMap fun q =>
      q.body.selects.flatMap starIssues := by
  rw [check, List.flatMap_assoc]
  refine List.flatMap_congr fun s _ => ?_
  rw [Statement.queries, ← s.flatMap_nodes, List.flatMap_assoc]
  exact List.flatMap_congr fun n _ => enter_eq n

/-- The selections that the rule looks at are those of the statements, each once. -/
theorem perm_selections (script : Script) :
    ((script.flatMap Statement.queries).flatMap (·.body.selects)).Perm
      (script.flatMap Statement.selections) := by
  rw [List.flatMap_assoc]
  exact List.Perm.flatMap_left script fun s _ => s.perm_selections

/-- Up to their order the issues are those of all the selections in the statements. -/
theorem check_perm (script : Script) :
    (check script).Perm ((script.flatMap Statement.selections).flatMap starIssues) := by
  rw [check_eq, ← List.flatMap_assoc]
  exact (perm_selections script).flatMap_right starIssues

/-- Statements do not influence each other. -/
theorem check_append (script more : Script) :
    check (script ++ more) = check script ++ check more :=
  List.flatMap_append

/-- **The stars of a text.** Statement by statement, query before inner query, selection by selection
and column by column, every star among the columns of a selection has one issue. The selections
looked at are all those that stand in the statements, each of them once, so that there are as many
issues as stars. Statements do not influence each other. -/
theorem check_stars (script : Script) :
    (check script = (script.flatMap Statement.queries).flatMap fun q =>
      q.body.selects.flatMap starIssues)
    ∧ ((script.flatMap Statement.queries).flatMap (·.body.selects)).Perm
      (script.flatMap Statement.selections)
    ∧ (check script).Perm ((script.flatMap Statement.selections).flatMap starIssues)
    ∧ (check script).length =
      ((script.flatMap Statement.selections).map fun s => s.items.countP isStar).sum
    ∧ (∀ issue ∈ check script, issue.rule = "no-select-star" ∧ issue.severity = .warning
      ∧ issue.message = "Avoid using SELECT *. Specify column names explicitly.")
    ∧ ∀ more, check (script ++ more) = check script ++ check more := by
  refine ⟨check_eq script, perm_selections script, check_perm script, ?_, ?_, check_append script⟩
  · rw [(check_perm script).length_eq, List.length_flatMap]
    congr 1
    exact List.map_congr_left fun s _ => length_starIssues s
  · -- Every issue is one of a selection, and there of a star.
    intro issue h
    obtain ⟨s, -, hs⟩ := List.mem_flatMap.1 ((check_perm script).mem_iff.1 h)
    exact fields_of_mem_starIssues hs

/-- A selection of all columns and of nothing else has one issue. -/
theorem check_stars_single :
    ∃ issue, check [.query ⟨false, [], .select ⟨Span.unknown, false, [], [],
        [.star Span.unknown (.plain "")], "", [], .plain "", none, [], .plain "", none, .plain ""⟩, [],
        none, none, "", .plain ""⟩] = [issue]
      ∧ issue.message = "Avoid using SELECT *. Specify column names explicitly." := by
  have h := check_stars [.query ⟨false, [], .select ⟨Span.unknown, false, [], [],
    [.star Span.unknown (.plain "")], "", [], .plain "", none, [], .plain "", none, .plain ""⟩, [],
    none, none, "", .plain ""⟩]
  obtain ⟨issue, hissue⟩ := List.length_eq_one_iff.1 h.2.2.2.1
  have hmem := List.mem_singleton_self issue
  rw [← hissue] at hmem
  exact ⟨issue, hissue, (h.2.2.2.2.1 issue hmem).2.2⟩

end QueryLint.NoSelectStar
