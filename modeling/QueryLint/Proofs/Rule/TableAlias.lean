import QueryLint.Proofs.Sql.Selects
import QueryLint.Rule.TableAlias

/-!
# What is reported of aliases

The rule goes through all nodes of a statement. At a query it looks at the tables of the selections
of its body, at a removal of rows at the two lists of the removal, and in a list of tables it goes
into joins between parentheses and operands of table operators by itself. What stands inside a
derived table it leaves alone, for that is a query of its own.

`check_aliases` says what comes of this. The lists of tables looked at are those of the selections
and removals that stand anywhere in the statements, each once (`perm_tableLists`); the table factors
looked at in a list are those that its relations are made of (`Part`), the parts before the whole
(`factorParts`); and there is one issue for each of them that has an alias of one character or of
more than thirty.
-/

namespace QueryLint.TableAlias

open Sql

/-! ## Aliases -/

/-- The alias of a table factor, whatever the factor is. -/
def label? : Factor → Option Sql.TableAlias
  | .table _ _ _ _ label _ => label
  | .derived _ _ label => label
  | .function _ _ _ label => label
  | .tableOf _ label => label
  | .unnest _ _ label _ => label
  | .jsonTable _ _ _ label => label
  | .openJson _ _ _ label => label
  | .nested _ label => label
  | .pivot _ _ _ _ _ label => label
  | .unpivot _ _ _ _ label => label
  | .matchRecognize _ _ _ _ _ _ label => label

/-- The alias of a table factor, if it has one of exactly one or of more than thirty characters. -/
def badAlias? (t : Factor) : Option String :=
  ((label? t).map fun a => a.name.text).filter fun text => text.length = 1 ∨ 30 < text.length

/-- The issue of an alias, which has no position. -/
def aliasIssue (text : String) : Issue :=
  { rule := "table-alias", severity := .info
    message := "Table alias \"" ++ text ++ "\" should be meaningful and between 2-30 characters"
    line := none, column := none, endLine := none, endColumn := none }

/-- One issue for each of some table factors that has a bad alias, in their order. -/
def aliasIssues (factors : List Factor) : List Issue :=
  (factors.filterMap badAlias?).map aliasIssue

theorem message_eq (text : String) : message text =
    "Table alias \"" ++ text ++ "\" should be meaningful and between 2-30 characters" := by
  -- The bounds are written into the text behind the alias.
  have htail : "\" should be meaningful and between "
      ++ (toString minLength ++ ("-" ++ (toString maxLength ++ " characters")))
      = "\" should be meaningful and between 2-30 characters" := by
    decide
  unfold message
  simp only [String.append_assoc, htail]

/-- The issue of an alias depends on its text alone. -/
theorem issueOf_eq (text : String) : issueOf text = aliasIssue text := by
  rw [issueOf, message_eq]
  rfl

/-- The bounds of the rule leave the empty alias alone. -/
theorem isBad_iff {text : String} : isBad text = true ↔ text.length = 1 ∨ 30 < text.length := by
  have hmin : minLength = 2 := rfl
  have hmax : maxLength = 30 := rfl
  simp only [isBad, hmin, hmax, Bool.or_eq_true, Bool.and_eq_true, decide_eq_true_eq]
  omega

theorem aliasIssues_append (ts us : List Factor) :
    aliasIssues (ts ++ us) = aliasIssues ts ++ aliasIssues us := by
  rw [aliasIssues, List.filterMap_append, List.map_append]
  rfl

theorem aliasIssues_flatMap {τ : Type} (xs : List τ) (g : τ → List Factor) :
    aliasIssues (xs.flatMap g) = xs.flatMap fun x => aliasIssues (g x) := by
  rw [aliasIssues, List.filterMap_flatMap, List.map_flatMap]
  rfl

/-- The rule's check of an alias is that of the factor that carries it. -/
theorem checkAlias_label? (t : Factor) : checkAlias (label? t) = aliasIssues [t] := by
  have hbad : (fun text : String => isBad text) =
      fun text => decide (text.length = 1 ∨ 30 < text.length) := by
    funext text
    rw [Bool.eq_iff_iff, isBad_iff, decide_eq_true_eq]
  rw [checkAlias, aliasIssues, List.filterMap_cons, badAlias?, ← hbad]
  cases label? t with
  | none => rfl
  | some a =>
    rw [Option.map_some, Option.filter_some, Option.toList_some, List.filter_cons, List.filter_nil]
    cases isBad a.name.text with
    | false => rfl
    | true => exact congrArg (fun issue => [issue]) (issueOf_eq a.name.text)

/-! ## What tables are made of -/

mutual

/-- A table factor behind all those that it is made of. -/
def factorParts : Factor → List Factor
  | t@(.nested relation _) => relationParts relation ++ [t]
  | t@(.pivot operand _ _ _ _ _) => factorParts operand ++ [t]
  | t@(.unpivot operand _ _ _ _) => factorParts operand ++ [t]
  | t@(.matchRecognize operand _ _ _ _ _ _) => factorParts operand ++ [t]
  | t => [t]

/-- The table factors that a relation is made of: those of its own factor, then those of what is
joined to it. -/
def relationParts : Relation → List Factor
  | ⟨factor, joins⟩ => factorParts factor ++ joinParts joins

/-- The table factors that joined ones are made of. -/
def joinParts : List Join → List Factor
  | [] => []
  | ⟨_, factor, _, _⟩ :: rest => factorParts factor ++ joinParts rest

end

/-- The table factors at the top of a relation: its own, and the right sides of its joins. -/
def tops (r : Relation) : List Factor := r.factor :: r.joins.map (·.factor)

/-- A table factor is another one or stands in it as a table: in a join between parentheses, or as
the operand of a table operator, at any depth. -/
inductive Part (t : Factor) : Factor → Prop
  | self : Part t t
  | nested {r : Relation} {label : Option Sql.TableAlias} {top : Factor} (h : top ∈ tops r)
    (ht : Part t top) : Part t (.nested r label)
  | pivot {operand : Factor} {aggregates : List Piece} {column : ObjectName} {source : PivotSource}
    {ending : Clause} {label : Option Sql.TableAlias} (ht : Part t operand) :
    Part t (.pivot operand aggregates column source ending label)
  | unpivot {operand : Factor} {value name : Ident} {columns : List Ident}
    {label : Option Sql.TableAlias} (ht : Part t operand) :
    Part t (.unpivot operand value name columns label)
  | matchRecognize {operand : Factor} {partition : List Expr} {order measures : List Piece}
    {pattern : String} {definitions : List Piece} {label : Option Sql.TableAlias}
    (ht : Part t operand) :
    Part t (.matchRecognize operand partition order measures pattern definitions label)

/-- The parts of joins are those of the joined factors, in the order of the joins. -/
theorem joinParts_eq (joins : List Join) :
    joinParts joins = joins.flatMap fun j => factorParts j.factor := by
  induction joins with
  | nil => rfl
  | cons j rest ih =>
    cases j
    rw [joinParts, ih, List.flatMap_cons]

/-- The parts of a relation are those of the factors at its top, from left to right. -/
theorem relationParts_eq (r : Relation) : relationParts r = (tops r).flatMap factorParts := by
  cases r
  rw [relationParts, joinParts_eq, tops, List.flatMap_cons, List.flatMap_map]

/-- A table factor comes right behind what it is made of. -/
theorem factorParts_eq_append (t : Factor) : ∃ before, factorParts t = before ++ [t] := by
  cases t with
  | nested r label => exact ⟨relationParts r, by rw [factorParts]⟩
  | pivot operand => exact ⟨factorParts operand, by rw [factorParts]⟩
  | unpivot operand => exact ⟨factorParts operand, by rw [factorParts]⟩
  | matchRecognize operand => exact ⟨factorParts operand, by rw [factorParts]⟩
  | _ => exact ⟨[], rfl⟩

/-- The parts of a table factor are the factors that it is made of, and itself. -/
theorem mem_factorParts_of_part {t u : Factor} (h : Part t u) : t ∈ factorParts u := by
  induction h with
  | self =>
    obtain ⟨before, hbefore⟩ := factorParts_eq_append t
    rw [hbefore]
    exact List.mem_append_right before (List.mem_singleton.2 rfl)
  | nested htop _ ih =>
    rw [factorParts, relationParts_eq]
    exact List.mem_append_left _ (List.mem_flatMap.2 ⟨_, htop, ih⟩)
  | pivot _ ih =>
    rw [factorParts]
    exact List.mem_append_left _ ih
  | unpivot _ ih =>
    rw [factorParts]
    exact List.mem_append_left _ ih
  | matchRecognize _ ih =>
    rw [factorParts]
    exact List.mem_append_left _ ih

mutual

/-- What is listed as a part is one. The three lists are taken together, as their definitions are. -/
theorem part_of_mem_factorParts {t : Factor} : ∀ {u : Factor}, t ∈ factorParts u → Part t u
  | .nested r label, h => by
    rw [factorParts, List.mem_append, List.mem_singleton] at h
    rcases h with h | rfl
    · obtain ⟨top, htop, ht⟩ := part_of_mem_relationParts h
      exact .nested htop ht
    · exact .self
  | .pivot operand _ _ _ _ _, h => by
    rw [factorParts, List.mem_append, List.mem_singleton] at h
    rcases h with h | rfl
    · exact .pivot (part_of_mem_factorParts h)
    · exact .self
  | .unpivot operand _ _ _ _, h => by
    rw [factorParts, List.mem_append, List.mem_singleton] at h
    rcases h with h | rfl
    · exact .unpivot (part_of_mem_factorParts h)
    · exact .self
  | .matchRecognize operand _ _ _ _ _ _, h => by
    rw [factorParts, List.mem_append, List.mem_singleton] at h
    rcases h with h | rfl
    · exact .matchRecognize (part_of_mem_factorParts h)
    · exact .self
  | .table _ _ _ _ _ _, h => List.mem_singleton.1 h ▸ .self
  | .derived _ _ _, h => List.mem_singleton.1 h ▸ .self
  | .function _ _ _ _, h => List.mem_singleton.1 h ▸ .self
  | .tableOf _ _, h => List.mem_singleton.1 h ▸ .self
  | .unnest _ _ _ _, h => List.mem_singleton.1 h ▸ .self
  | .jsonTable _ _ _ _, h => List.mem_singleton.1 h ▸ .self
  | .openJson _ _ _ _, h => List.mem_singleton.1 h ▸ .self

/-- A part of a relation is one of a table factor at its top. -/
theorem part_of_mem_relationParts {t : Factor} :
    ∀ {r : Relation}, t ∈ relationParts r → ∃ top ∈ tops r, Part t top
  | ⟨factor, joins⟩, h => by
    rw [relationParts, List.mem_append] at h
    rcases h with h | h
    · exact ⟨factor, List.mem_cons_self, part_of_mem_factorParts h⟩
    · obtain ⟨j, hj, ht⟩ := part_of_mem_joinParts h
      exact ⟨j.factor, List.mem_cons_of_mem _ (List.mem_map_of_mem hj), ht⟩

theorem part_of_mem_joinParts {t : Factor} :
    ∀ {joins : List Join}, t ∈ joinParts joins → ∃ j ∈ joins, Part t j.factor
  | [], h => by cases h
  | ⟨words, factor, condition, columns⟩ :: rest, h => by
    rw [joinParts, List.mem_append] at h
    rcases h with h | h
    · exact ⟨_, List.mem_cons_self, part_of_mem_factorParts h⟩
    · obtain ⟨j, hj, ht⟩ := part_of_mem_joinParts h
      exact ⟨j, List.mem_cons_of_mem _ hj, ht⟩

end

/-- The table factors looked at in a relation are the parts of the factors at its top. -/
theorem mem_relationParts {r : Relation} {t : Factor} :
    t ∈ relationParts r ↔ ∃ top ∈ tops r, Part t top := by
  constructor
  · exact part_of_mem_relationParts
  · rintro ⟨top, htop, ht⟩
    rw [relationParts_eq]
    exact List.mem_flatMap.2 ⟨top, htop, mem_factorParts_of_part ht⟩

/-! ## Once and last

A table factor is larger than all that it is made of, so it is not among its own proper parts. -/

/-- The table factors at the top of a relation are smaller than the relation. -/
theorem sizeOf_lt_of_mem_tops {r : Relation} {top : Factor} (h : top ∈ tops r) :
    sizeOf top < sizeOf r := by
  cases r with
  | mk factor joins =>
    rcases List.mem_cons.1 h with rfl | h
    · simp
      omega
    · obtain ⟨j, hj, rfl⟩ := List.mem_map.1 h
      have := List.sizeOf_lt_of_mem hj
      cases j
      simp at this ⊢
      omega

theorem sizeOf_le_of_part {t u : Factor} (h : Part t u) : sizeOf t ≤ sizeOf u := by
  induction h with
  | self => exact Nat.le_refl _
  | nested htop _ ih =>
    have := sizeOf_lt_of_mem_tops htop
    simp
    omega
  | pivot _ ih =>
    simp
    omega
  | unpivot _ ih =>
    simp
    omega
  | matchRecognize _ ih =>
    simp
    omega

/-- All that is listed before the whole is smaller than it, so the whole comes once. -/
theorem sizeOf_lt_of_mem_before {t u : Factor} {before : List Factor}
    (hbefore : factorParts t = before ++ [t]) (hu : u ∈ before) : sizeOf u < sizeOf t := by
  cases t with
  | nested r label =>
    rw [factorParts, List.append_cancel_right_eq] at hbefore
    obtain ⟨top, htop, hpart⟩ := part_of_mem_relationParts (hbefore ▸ hu)
    have hle := sizeOf_le_of_part hpart
    have hlt := sizeOf_lt_of_mem_tops htop
    simp
    omega
  | pivot operand =>
    rw [factorParts, List.append_cancel_right_eq] at hbefore
    have hle := sizeOf_le_of_part (part_of_mem_factorParts (hbefore ▸ hu))
    simp
    omega
  | unpivot operand =>
    rw [factorParts, List.append_cancel_right_eq] at hbefore
    have hle := sizeOf_le_of_part (part_of_mem_factorParts (hbefore ▸ hu))
    simp
    omega
  | matchRecognize operand =>
    rw [factorParts, List.append_cancel_right_eq] at hbefore
    have hle := sizeOf_le_of_part (part_of_mem_factorParts (hbefore ▸ hu))
    simp
    omega
  | _ =>
    -- The other factors are made of nothing but themselves.
    have hnil : before = [] := by simpa [factorParts] using hbefore
    rw [hnil] at hu
    cases hu

/-- A table factor comes once, right behind all the others that it is made of. -/
theorem factorParts_last (t : Factor) :
    ∃ before, factorParts t = before ++ [t] ∧ ∀ u, u ∈ before ↔ Part u t ∧ u ≠ t := by
  obtain ⟨before, hbefore⟩ := factorParts_eq_append t
  refine ⟨before, hbefore, fun u => ⟨fun hu => ⟨?_, ?_⟩, ?_⟩⟩
  · apply part_of_mem_factorParts
    rw [hbefore]
    exact List.mem_append_left _ hu
  · rintro rfl
    exact Nat.lt_irrefl _ (sizeOf_lt_of_mem_before hbefore hu)
  · rintro ⟨hpart, hne⟩
    have hu := mem_factorParts_of_part hpart
    rw [hbefore, List.mem_append, List.mem_singleton] at hu
    exact hu.resolve_right hne

/-! ## The rule's way through tables -/

mutual

/-- The rule's own way through a table factor gives the issues of its parts. -/
theorem checkFactor_eq : ∀ t : Factor, checkFactor t = aliasIssues (factorParts t)
  | .nested r label => by
    rw [checkFactor, factorParts, aliasIssues_append, checkRelation_eq r, ← checkAlias_label?]
    rfl
  | .pivot operand _ _ _ _ label => by
    rw [checkFactor, factorParts, aliasIssues_append, checkFactor_eq operand, ← checkAlias_label?]
    rfl
  | .unpivot operand _ _ _ label => by
    rw [checkFactor, factorParts, aliasIssues_append, checkFactor_eq operand, ← checkAlias_label?]
    rfl
  | .matchRecognize operand _ _ _ _ _ label => by
    rw [checkFactor, factorParts, aliasIssues_append, checkFactor_eq operand, ← checkAlias_label?]
    rfl
  | .table name called args ordinality label ending =>
    checkAlias_label? (.table name called args ordinality label ending)
  | .derived lateral q label => checkAlias_label? (.derived lateral q label)
  | .function lateral name args label => checkAlias_label? (.function lateral name args label)
  | .tableOf e label => checkAlias_label? (.tableOf e label)
  | .unnest arrays ordinality label ending =>
    checkAlias_label? (.unnest arrays ordinality label ending)
  | .jsonTable document path columns label =>
    checkAlias_label? (.jsonTable document path columns label)
  | .openJson document path columns label =>
    checkAlias_label? (.openJson document path columns label)

/-- Checking a relation is reporting the bad aliases of its parts. -/
theorem checkRelation_eq : ∀ r : Relation, checkRelation r = aliasIssues (relationParts r)
  | ⟨factor, joins⟩ => by
    rw [checkRelation, relationParts, aliasIssues_append, checkFactor_eq factor,
      checkJoins_eq joins]

/-- Checking joins is reporting the bad aliases of the parts of the joined factors. -/
theorem checkJoins_eq : ∀ joins : List Join, checkJoins joins = aliasIssues (joinParts joins)
  | [] => rfl
  | ⟨_, factor, _, _⟩ :: rest => by
    rw [checkJoins, joinParts, aliasIssues_append, checkFactor_eq factor, checkJoins_eq rest]

end

/-- Checking a list of tables is reporting the bad aliases of all parts, table by table. -/
theorem checkTables_eq (tables : List Relation) :
    checkTables tables = aliasIssues (tables.flatMap relationParts) := by
  rw [checkTables, aliasIssues_flatMap]
  exact List.flatMap_congr fun r _ => checkRelation_eq r

/-! ## The lists of tables of a statement -/

/-- The lists of tables that stand at a node: the tables of a selection, and the two lists of a
removal of rows. -/
def ownTables : Node → List (List Relation)
  | .select s => [s.froms]
  | .statement (.delete d) => [d.froms, d.usings]
  | _ => []

/-- The lists of tables that the rule looks at when it comes upon a node. -/
def visitedTables : Node → List (List Relation)
  | .query q => q.body.selects.map (·.froms)
  | .statement (.delete d) => [d.froms, d.usings]
  | _ => []

/-- All lists of tables of some statements, wherever they stand. -/
def tableLists (script : Script) : List (List Relation) :=
  script.flatMap (Statement.walk ownTables)

/-- The lists of tables that the rule looks at, in the order in which it does. -/
def visitedLists (script : Script) : List (List Relation) :=
  script.flatMap (Statement.walk visitedTables)

/-- The lists of tables of a node that removes rows. -/
def removalTables : Node → List (List Relation)
  | .statement (.delete d) => [d.froms, d.usings]
  | _ => []

/-- The tables that stand at a node are those of a selection or of a removal. -/
theorem ownTables_eq (n : Node) :
    ownTables n = n.asSelect.map (·.froms) ++ removalTables n := by
  cases n with
  | statement s => cases s <;> rfl
  | _ => rfl

/-- The tables that are looked at on entering a node are those of the selections of a query, or those
of a removal. -/
theorem visitedTables_eq (n : Node) :
    visitedTables n = n.bodySelects.map (·.froms) ++ removalTables n := by
  cases n with
  | statement s => cases s <;> rfl
  | query q =>
    rw [Node.bodySelects, Node.asQuery, List.flatMap_singleton]
    exact (List.append_nil _).symm
  | _ => rfl

/-- The lists that the rule looks at in a statement are those that stand in it. -/
theorem perm_walk_tables (s : Statement) :
    (s.walk visitedTables).Perm (s.walk ownTables) := by
  -- Removals are looked at where they stand; only the tables of selections change their places.
  have hsplit : ∀ g : Node → List Select,
      (s.nodes.flatMap fun n => (g n).map (·.froms) ++ removalTables n).Perm
        ((s.nodes.flatMap g).map (·.froms) ++ s.nodes.flatMap removalTables) := by
    intro g
    rw [List.map_flatMap]
    exact (List.flatMap_append_perm s.nodes _ removalTables).symm
  have hselects : (s.nodes.flatMap Node.bodySelects).Perm (s.nodes.flatMap Node.asSelect) :=
    (Node.perm_asSelect_preorder (.statement s)).symm
  rw [← s.flatMap_nodes, ← s.flatMap_nodes, funext visitedTables_eq, funext ownTables_eq]
  exact (hsplit _).trans (((hselects.map _).append_right _).trans (hsplit _).symm)

/-- The lists of tables that are looked at are those that stand in the script, each once. -/
theorem perm_tableLists (script : Script) : (visitedLists script).Perm (tableLists script) :=
  List.Perm.flatMap_left script fun s _ => perm_walk_tables s

/-! ## The report -/

/-- At a node the rule reports the aliases of the lists of tables that it looks at there. -/
theorem enter_eq (n : Node) :
    enter n = (visitedTables n).flatMap fun tables => aliasIssues (tables.flatMap relationParts) := by
  cases n with
  | query q =>
    rw [enter, q.selects_eq, visitedTables, List.flatMap_map]
    exact List.flatMap_congr fun s _ => checkTables_eq s.froms
  | statement s =>
    cases s with
    | delete d =>
      rw [enter, checkTables_eq, checkTables_eq, visitedTables, List.flatMap_cons,
        List.flatMap_singleton]
    | _ => rfl
  | _ => rfl

/-- The issues come list by list and relation by relation. -/
theorem check_eq (script : Script) :
    check script = aliasIssues ((visitedLists script).flatten.flatMap relationParts) := by
  rw [check, aliasIssues_flatMap, ← List.flatMap_id', List.flatMap_assoc, visitedLists,
    List.flatMap_assoc]
  refine List.flatMap_congr fun s _ => ?_
  rw [← s.flatMap_nodes, List.flatMap_assoc]
  refine List.flatMap_congr fun n _ => ?_
  rw [enter_eq]
  exact List.flatMap_congr fun tables _ => aliasIssues_flatMap tables relationParts

/-- The order of tables decides the order of the issues only. -/
theorem aliasIssues_perm {ts us : List Factor} (h : ts.Perm us) :
    (aliasIssues ts).Perm (aliasIssues us) :=
  (h.filterMap badAlias?).map aliasIssue

/-- Up to their order the issues are those of all lists of tables in the statements. -/
theorem check_perm (script : Script) :
    (check script).Perm (aliasIssues ((tableLists script).flatten.flatMap relationParts)) := by
  rw [check_eq]
  exact aliasIssues_perm ((perm_tableLists script).flatten.flatMap_right relationParts)

/-- **The aliases of a text.** Every table factor with a bad alias, of a list of tables that belongs
to a selection or to a removal of rows anywhere in the statements, has one issue, which names the
alias. The lists looked at are all of these, each of them once. The factors of a list are those at
the top of its relations, from left to right, each right behind the parts that it is made of, which
are joined between its parentheses or are its operand; the inside of a derived table is none of
them. -/
theorem check_aliases (script : Script) :
    (check script = aliasIssues ((visitedLists script).flatten.flatMap relationParts))
    ∧ (visitedLists script).Perm (tableLists script)
    ∧ (check script).Perm (aliasIssues ((tableLists script).flatten.flatMap relationParts))
    ∧ (∀ r, relationParts r = (tops r).flatMap factorParts)
    ∧ (∀ t, ∃ before, factorParts t = before ++ [t] ∧ ∀ u, u ∈ before ↔ Part u t ∧ u ≠ t)
    ∧ (∀ r t, t ∈ relationParts r ↔ ∃ top ∈ tops r, Part t top)
    ∧ ∀ lateral q label t, Part t (.derived lateral q label) ↔ t = .derived lateral q label := by
  refine ⟨check_eq script, perm_tableLists script, check_perm script, relationParts_eq,
    factorParts_last, fun r t => mem_relationParts, ?_⟩
  intro lateral q label t
  constructor
  · intro h
    cases h
    rfl
  · rintro rfl
    exact .self

end QueryLint.TableAlias
