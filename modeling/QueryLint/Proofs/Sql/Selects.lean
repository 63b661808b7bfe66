import Mathlib.Data.List.Perm.Basic
import QueryLint.Proofs.Sql.Walk
import QueryLint.Sql.Selects

/-!
# Every selection belongs to one query

The rules look at selections when they come upon a query, and then only at those of the query's own
body. That this misses no selection and finds none twice is

> `Statement.perm_selections`: the selections of the bodies of all queries of a statement are, up to
> their order, the selections that stand anywhere in it.

The two sides list selections at different nodes: one at the query, the other where the selection
stands. In between lie the bodies, whose set operators are followed at once on the one side and node
by node on the other. `Node.openSelects` is the account of this: the selections that a walk from the middle
of a body still comes upon although their query was passed before.
-/

namespace QueryLint.Sql

/-! ## The selections of a body -/

/-- Looking at bodies one after the other finds the selections of each, in order. -/
theorem selectsOf_eq_flatMap (pending : List Body) :
    selectsOf pending = pending.flatMap Body.selects := by
  fun_induction selectsOf pending with
  | case1 => rfl
  | case2 s rest ih =>
    rw [ih, List.flatMap_cons]
    rfl
  | case3 left op quantifier right rest ih =>
    rw [ih, List.flatMap_cons, List.flatMap_cons, List.flatMap_cons, Body.selects,
      List.append_assoc]
  | case4 other rest hselect hoperation ih =>
    -- Neither a selection nor a set operator: such a body has no selection of its own.
    have hnone : other.selects = [] := by
      cases other with
      | select s => exact absurd rfl (hselect s)
      | setOperation left op quantifier right =>
        exact absurd rfl (hoperation left op quantifier right)
      | _ => rfl
    rw [ih, List.flatMap_cons, hnone, List.nil_append]

theorem Query.selects_eq (q : Query) : q.selects = q.body.selects := by
  rw [Query.selects, selectsOf_eq_flatMap, List.flatMap_singleton]

/-! ## The account of a walk -/

namespace Node

/-- The selections below a node that belong to a query above it. -/
def openSelects : Node → List Select
  | .body b => b.selects
  | .select s => [s]
  | _ => []

/-- The selections of the body of a node, if it is a query. -/
def bodySelects (n : Node) : List Select :=
  n.asQuery.flatMap (·.body.selects)

/-! Pieces, expressions, tables and whole queries hold only selections of queries of their own. -/

theorem openSelects_ofPieces (ps : List Piece) : (ofPieces ps).flatMap openSelects = [] := by
  simp [ofPieces, ofPiece, openSelects]

theorem openSelects_ofOption (e : Option Expr) : (ofOption e).flatMap openSelects = [] := by
  simp [ofOption, openSelects]

theorem openSelects_exprs (es : List Expr) : (es.map Node.expr).flatMap openSelects = [] := by
  simp [openSelects]

theorem openSelects_relations (rs : List Relation) :
    (rs.map Node.relation).flatMap openSelects = [] := by
  simp [openSelects]

theorem openSelects_queryOption (q : Option Query) :
    (q.toList.map Node.query).flatMap openSelects = [] := by
  simp [openSelects]

theorem openSelects_ofClause (c : Clause) : (ofClause c).flatMap openSelects = [] :=
  openSelects_ofPieces c.pieces

theorem openSelects_ofClauses (cs : List Clause) : (ofClauses cs).flatMap openSelects = [] := by
  rw [ofClauses, List.flatMap_assoc, List.flatMap_eq_nil_iff]
  intro c _
  exact openSelects_ofClause c

theorem openSelects_statements (ss : List Statement) :
    (ss.map Node.statement).flatMap openSelects = [] := by
  simp [openSelects]

/-- The columns of a selection hold expressions, also where a star has options. -/
theorem openSelects_ofItems (items : List SelectItem) :
    (ofItems items).flatMap openSelects = [] := by
  rw [ofItems, List.flatMap_assoc, List.flatMap_eq_nil_iff]
  intro i _
  cases i with
  | expr e label => rfl
  | star span options => exact openSelects_ofClause options
  | starOf table span options => exact openSelects_ofClause options

theorem openSelects_ofJoin (j : Join) : (ofJoin j).flatMap openSelects = [] := by
  rw [ofJoin, List.flatMap_cons, openSelects_ofOption]
  rfl

/-- A window holds expressions only, those of its frame included. -/
theorem openSelects_ofWindow (w : Window) : (ofWindow w).flatMap openSelects = [] := by
  cases w with
  | spec base partition order frame =>
    simp only [ofWindow, List.flatMap_append, openSelects_exprs, openSelects_ofPieces,
      openSelects_ofClause, List.append_nil]
  | _ => rfl

/-- Below an expression every selection belongs to a query that is below it, too. -/
theorem openSelects_ofExpr (e : Expr) : (ofExpr e).flatMap openSelects = [] := by
  cases e <;>
    simp only [ofExpr, ofCall, List.flatMap_nil, List.flatMap_cons, List.flatMap_append,
      openSelects_exprs, openSelects_ofPieces, openSelects_ofOption, openSelects_ofWindow,
      openSelects, List.append_nil]

/-- The same below a table factor. -/
theorem openSelects_ofFactor (t : Factor) : (ofFactor t).flatMap openSelects = [] := by
  cases t with
  | pivot operand aggregates column source ending label =>
    cases source <;>
      simp only [ofFactor, ofPivotSource, List.flatMap_cons, List.flatMap_append, List.flatMap_nil,
        openSelects_ofPieces, openSelects_ofClause, openSelects, List.append_nil,
        List.cons_append]
  | _ =>
    simp only [ofFactor, List.flatMap_cons, List.flatMap_append, List.flatMap_nil,
      openSelects_exprs, openSelects_ofPieces, openSelects_ofClause, openSelects, List.append_nil,
      List.cons_append]

theorem openSelects_ofInsertion (i : Insertion) : (ofInsertion i).flatMap openSelects = [] := by
  simp only [ofInsertion, List.flatMap_append, openSelects_queryOption, openSelects_ofPieces,
    openSelects_ofClause, openSelects_ofItems, List.append_nil]

theorem openSelects_ofUpdate (u : Update) : (ofUpdate u).flatMap openSelects = [] := by
  simp only [ofUpdate, List.cons_append, List.flatMap_cons, List.flatMap_append,
    openSelects_ofPieces, openSelects_relations, openSelects_ofOption, openSelects_ofItems,
    openSelects, List.append_nil]

theorem openSelects_ofDelete (d : Delete) : (ofDelete d).flatMap openSelects = [] := by
  simp only [ofDelete, List.flatMap_append, openSelects_relations, openSelects_ofOption,
    openSelects_ofItems, openSelects_ofPieces, List.append_nil]

/-- The same below a statement, even if it holds another statement. -/
theorem openSelects_ofStatement (s : Statement) : (ofStatement s).flatMap openSelects = [] := by
  cases s <;>
    simp only [ofStatement, List.flatMap_nil, List.flatMap_cons, List.flatMap_append,
      openSelects_ofInsertion, openSelects_ofUpdate, openSelects_ofDelete, openSelects_ofClauses,
      openSelects_ofClause, openSelects_statements, openSelects_queryOption, openSelects,
      List.append_nil]

/-- What a body leaves open it leaves to the bodies and the selection that it holds. -/
theorem openSelects_ofBody (b : Body) : (ofBody b).flatMap openSelects = b.selects := by
  cases b <;>
    simp only [ofBody, List.flatMap_nil, List.flatMap_cons, openSelects_exprs,
      openSelects_ofInsertion, openSelects_ofUpdate, openSelects, Body.selects, List.append_nil]

/-- One step of a walk: a node settles what was open, leaves open what is below it, and takes up the
selections of its own body. -/
theorem openSelects_children (n : Node) :
    n.asSelect ++ n.children.flatMap openSelects = n.openSelects ++ n.bodySelects := by
  cases n with
  | statement s =>
    rw [children, openSelects_ofStatement]
    rfl
  | query q =>
    have hctes : (q.ctes.map fun c => Node.query c.query).flatMap openSelects = [] := by
      simp [openSelects]
    simp only [children, asSelect, bodySelects, asQuery, List.flatMap_append, List.flatMap_cons,
      List.flatMap_nil, hctes, openSelects_ofPieces, openSelects_ofOption, openSelects_ofClause,
      openSelects, List.nil_append, List.append_nil]
  | body b =>
    rw [children, openSelects_ofBody]
    exact (List.append_nil _).symm
  | select s =>
    simp only [children, asSelect, bodySelects, asQuery, List.flatMap_append, List.flatMap_nil,
      openSelects_exprs, openSelects_ofPieces, openSelects_ofItems, openSelects_relations,
      openSelects_ofOption, openSelects_ofClause, openSelects, List.append_nil]
  | relation r =>
    have hjoins : (r.joins.flatMap ofJoin).flatMap openSelects = [] := by
      rw [List.flatMap_assoc, List.flatMap_eq_nil_iff]
      exact fun j _ => openSelects_ofJoin j
    rw [children, List.flatMap_cons, hjoins]
    rfl
  | factor t =>
    rw [children, openSelects_ofFactor]
    rfl
  | expr e =>
    rw [children, openSelects_ofExpr]
    rfl

/-- A walk from a node on comes upon the selections that were open there and those of the bodies of
the queries on its way, each once. The induction is on the size of the node. -/
theorem perm_asSelect_preorder (n : Node) :
    (n.preorder.flatMap asSelect).Perm (n.openSelects ++ n.preorder.flatMap bodySelects) := by
  -- Below the node the induction holds child by child; what the children leave open comes first.
  have hbelow : (n.children.flatMap fun c => c.preorder.flatMap asSelect).Perm
      (n.children.flatMap openSelects
        ++ n.children.flatMap fun c => c.preorder.flatMap bodySelects) := by
    refine List.Perm.trans (List.Perm.flatMap_left n.children fun c hc => ?_)
      (List.flatMap_append_perm n.children openSelects _).symm
    have hsize := sizeOf_lt_of_mem_children hc
    exact perm_asSelect_preorder c
  rw [preorder_eq, List.flatMap_cons, List.flatMap_cons, List.flatMap_assoc, List.flatMap_assoc,
    ← List.append_assoc, ← openSelects_children, List.append_assoc]
  exact hbelow.append_left n.asSelect
termination_by sizeOf n

end Node

/-- The selections of the bodies of all queries of a statement are the selections that stand
anywhere in it: none is left out, and none belongs to two queries. -/
theorem Statement.perm_selections (s : Statement) :
    (s.queries.flatMap (·.body.selects)).Perm s.selections := by
  rw [Statement.queries, Statement.selections, ← s.flatMap_nodes, ← s.flatMap_nodes,
    List.flatMap_assoc]
  exact (Node.perm_asSelect_preorder (.statement s)).symm

end QueryLint.Sql
