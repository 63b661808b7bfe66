import Mathlib.Data.List.Basic
import QueryLint.Sql.Node.Preorder

/-!
# Going through the syntax itself

`Node.preorder` goes from node to node by `Node.children`, and so it says what is reached only
together with all the lists of children. `Statement.walk` is the same journey by recursion on the
syntax: one function for each type of tree, one line for each constructor, and in the line every
field that holds a tree. What is gathered at a node comes before what is gathered below it.

> `flatMap_preorder`: gathering along the nodes of a tree is walking through the tree.

So no tree that stands in a statement, however deep, is passed over by the nodes, and none is come
upon twice. `Statement.queries` and `Statement.selections` are two things to gather.
-/

namespace QueryLint.Sql

variable {α : Type} (f : Node → List α)

mutual

/-- What is gathered in an expression. -/
def Expr.walk : Expr → List α
  | e@(.name _) => f (.expr e)
  | e@.star => f (.expr e)
  | e@(.starOf _) => f (.expr e)
  | e@(.literal _) => f (.expr e)
  | e@(.typed _ _) => f (.expr e)
  | e@(.unary _ a) => f (.expr e) ++ a.walk
  | e@(.binary a _ b) => f (.expr e) ++ a.walk ++ b.walk
  | e@(.quantified a _ _ b) => f (.expr e) ++ a.walk ++ b.walk
  | e@(.test a _) => f (.expr e) ++ a.walk
  | e@(.distinctFrom a _ b) => f (.expr e) ++ a.walk ++ b.walk
  | e@(.between a _ low high) => f (.expr e) ++ a.walk ++ low.walk ++ high.walk
  | e@(.inList a _ items) => f (.expr e) ++ a.walk ++ walkExprs items
  | e@(.inQuery a _ q) => f (.expr e) ++ a.walk ++ q.walk
  | e@(.like a _ _ b _) => f (.expr e) ++ a.walk ++ b.walk
  | e@(.cast _ a _) => f (.expr e) ++ a.walk
  | e@(.nested a) => f (.expr e) ++ a.walk
  | e@(.tuple items) => f (.expr e) ++ walkExprs items
  | e@(.subquery q) => f (.expr e) ++ q.walk
  | e@(.exists _ q) => f (.expr e) ++ q.walk
  | e@(.case a conditions results otherwise) =>
    f (.expr e) ++ walkOption a ++ walkExprs conditions ++ walkExprs results ++ walkOption otherwise
  | e@(.call c) => f (.expr e) ++ c.walk
  | e@(.array _ items) => f (.expr e) ++ walkExprs items
  | e@(.arrayOf q) => f (.expr e) ++ q.walk
  | e@(.index a b) => f (.expr e) ++ a.walk ++ b.walk
  | e@(.collate a _) => f (.expr e) ++ a.walk
  | e@(.phrase pieces) => f (.expr e) ++ walkPieces pieces

/-- What is gathered in several expressions. -/
def walkExprs : List Expr → List α
  | [] => []
  | e :: rest => e.walk ++ walkExprs rest

/-- What is gathered in an expression that may be missing. -/
def walkOption : Option Expr → List α
  | none => []
  | some e => e.walk

/-- What is gathered in an expression among text. -/
def Piece.walk : Piece → List α
  | ⟨_, e, _⟩ => e.walk

/-- What is gathered in several expressions among text. -/
def walkPieces : List Piece → List α
  | [] => []
  | p :: rest => p.walk ++ walkPieces rest

/-- What is gathered in a part without a form of its own. -/
def Clause.walk : Clause → List α
  | ⟨pieces, _⟩ => walkPieces pieces

/-- What is gathered in a call. -/
def Call.walk : Call → List α
  | ⟨_, _, _, args, clauses, _, within, filter, _, window⟩ =>
    walkPieces args ++ walkPieces clauses ++ walkOption filter ++ window.walk ++ walkPieces within

/-- What is gathered in the rows that a function looks at. -/
def Window.walk : Window → List α
  | .none => []
  | .named _ => []
  | .spec _ partition order frame => walkExprs partition ++ walkPieces order ++ frame.walk

/-- What is gathered in a query. -/
def Query.walk : Query → List α
  | q@⟨_, ctes, body, order, limit, offset, _, ending⟩ =>
    f (.query q) ++ walkCtes ctes ++ body.walk ++ walkPieces order ++ walkOption limit
      ++ walkOption offset ++ ending.walk

/-- What is gathered in a query that may be missing. -/
def walkQueryOption : Option Query → List α
  | none => []
  | some q => q.walk

/-- What is gathered in a query with a name. -/
def Cte.walk : Cte → List α
  | ⟨_, _, q, _⟩ => q.walk

/-- What is gathered in several queries with names. -/
def walkCtes : List Cte → List α
  | [] => []
  | c :: rest => c.walk ++ walkCtes rest

/-- What is gathered in a body. -/
def Body.walk : Body → List α
  | b@(.select s) => f (.body b) ++ s.walk
  | b@(.query q) => f (.body b) ++ q.walk
  | b@(.setOperation left _ _ right) => f (.body b) ++ left.walk ++ right.walk
  | b@(.values _ rows) => f (.body b) ++ walkExprs rows
  | b@(.table _) => f (.body b)
  | b@(.insert i) => f (.body b) ++ i.walk
  | b@(.update u) => f (.body b) ++ u.walk

/-- What is gathered in a selection. -/
def Select.walk : Select → List α
  | s@⟨_, _, distinctOn, top, items, _, froms, views, filter, group, groupEnding, having, ending⟩ =>
    f (.select s) ++ walkExprs distinctOn ++ walkPieces top ++ walkItems items
      ++ walkRelations froms ++ views.walk ++ walkOption filter ++ walkExprs group
      ++ groupEnding.walk ++ walkOption having ++ ending.walk

/-- What is gathered in a column of a selection. -/
def SelectItem.walk : SelectItem → List α
  | .expr e _ => e.walk
  | .star _ options => options.walk
  | .starOf _ _ options => options.walk

/-- What is gathered in the columns of a selection. -/
def walkItems : List SelectItem → List α
  | [] => []
  | i :: rest => i.walk ++ walkItems rest

/-- What is gathered in a relation. -/
def Relation.walk : Relation → List α
  | r@⟨factor, joins⟩ => f (.relation r) ++ factor.walk ++ walkJoins joins

/-- What is gathered in several relations. -/
def walkRelations : List Relation → List α
  | [] => []
  | r :: rest => r.walk ++ walkRelations rest

/-- What is gathered in a joined table factor. -/
def Join.walk : Join → List α
  | ⟨_, factor, condition, _⟩ => factor.walk ++ walkOption condition

/-- What is gathered in joined table factors. -/
def walkJoins : List Join → List α
  | [] => []
  | j :: rest => j.walk ++ walkJoins rest

/-- What is gathered in a table factor. -/
def Factor.walk : Factor → List α
  | t@(.table _ _ args _ _ ending) => f (.factor t) ++ walkPieces args ++ ending.walk
  | t@(.derived _ q _) => f (.factor t) ++ q.walk
  | t@(.function _ _ args _) => f (.factor t) ++ walkPieces args
  | t@(.tableOf e _) => f (.factor t) ++ e.walk
  | t@(.unnest arrays _ _ _) => f (.factor t) ++ walkExprs arrays
  | t@(.jsonTable e _ _ _) => f (.factor t) ++ e.walk
  | t@(.openJson e _ _ _) => f (.factor t) ++ e.walk
  | t@(.nested r _) => f (.factor t) ++ r.walk
  | t@(.pivot operand aggregates _ source ending _) =>
    f (.factor t) ++ operand.walk ++ walkPieces aggregates ++ source.walk ++ ending.walk
  | t@(.unpivot operand _ _ _ _) => f (.factor t) ++ operand.walk
  | t@(.matchRecognize operand partition order measures _ definitions _) =>
    f (.factor t) ++ operand.walk ++ walkExprs partition ++ walkPieces order ++ walkPieces measures
      ++ walkPieces definitions

/-- What is gathered in the values that a pivot turns into columns. -/
def PivotSource.walk : PivotSource → List α
  | .list values => walkPieces values
  | .any order => walkPieces order
  | .subquery q => q.walk

/-- What is gathered in an insertion. -/
def Insertion.walk : Insertion → List α
  | ⟨head, source, assignments, conflict, returning⟩ =>
    walkQueryOption source ++ walkPieces assignments ++ head.walk ++ conflict.walk
      ++ walkItems returning

/-- What is gathered in a change of rows. -/
def Update.walk : Update → List α
  | ⟨_, target, assignments, froms, filter, returning⟩ =>
    target.walk ++ walkPieces assignments ++ walkRelations froms ++ walkOption filter
      ++ walkItems returning

end

/-- What is gathered in a removal of rows. -/
def Delete.walk : Delete → List α
  | ⟨_, _, froms, usings, filter, returning, order, limit⟩ =>
    walkRelations f froms ++ walkRelations f usings ++ walkOption f filter ++ walkItems f returning
      ++ walkPieces f order ++ walkOption f limit

/-- What is gathered in several parts without a form of their own. -/
def walkClauses : List Clause → List α
  | [] => []
  | c :: rest => c.walk f ++ walkClauses rest

/-- What is gathered in a definition of a table. -/
def TableDefinition.walk : TableDefinition → List α
  | ⟨_, elements, options, query⟩ =>
    walkClauses f elements ++ options.walk f ++ walkQueryOption f query

mutual

/-- What is gathered in a statement. -/
def Statement.walk : Statement → List α
  | s@(.query q) => f (.statement s) ++ q.walk f
  | s@(.insert i) => f (.statement s) ++ i.walk f
  | s@(.update u) => f (.statement s) ++ u.walk f
  | s@(.delete d) => f (.statement s) ++ d.walk f
  | s@(.createTable t) => f (.statement s) ++ t.walk f
  | s@(.createView head q ending) => f (.statement s) ++ head.walk f ++ q.walk f ++ ending.walk f
  | s@(.alterTable _ operations) => f (.statement s) ++ walkClauses f operations
  | s@(.commit _) => f (.statement s)
  | s@(.words clause) => f (.statement s) ++ clause.walk f
  | s@(.explain head inner) => f (.statement s) ++ inner.walk ++ head.walk f
  | s@(.block head statements) => f (.statement s) ++ head.walk f ++ walkStatements statements

/-- What is gathered in several statements. -/
def walkStatements : List Statement → List α
  | [] => []
  | s :: rest => s.walk ++ walkStatements rest

end

/-- A node as a query, if it is one. -/
def Node.asQuery : Node → List Query
  | .query q => [q]
  | _ => []

/-- A node as a selection, if it is one. -/
def Node.asSelect : Node → List Select
  | .select s => [s]
  | _ => []

/-- The queries of a statement, wherever they stand in it, each before those that it holds. -/
def Statement.queries (s : Statement) : List Query := s.walk Node.asQuery

/-- The selections of a statement, wherever they stand in it. -/
def Statement.selections (s : Statement) : List Select := s.walk Node.asSelect

/-! ## From the syntax to the nodes -/

namespace Node

/-- What is gathered in a node. -/
def walk : Node → List α
  | .statement s => s.walk f
  | .query q => q.walk f
  | .body b => b.walk f
  | .select s => s.walk f
  | .relation r => r.walk f
  | .factor t => t.walk f
  | .expr e => e.walk f

/-- Walking through a list of trees one by one is walking through the nodes of all of them. -/
theorem flatMap_walk_of_cons {τ : Type} {nodes : τ → List Node} {walkAll : List τ → List α}
    (hnil : walkAll [] = [])
    (hcons : ∀ x rest, walkAll (x :: rest) = (nodes x).flatMap (walk f) ++ walkAll rest) :
    ∀ xs : List τ, (xs.flatMap nodes).flatMap (walk f) = walkAll xs
  | [] => hnil.symm
  | x :: rest => by
    rw [List.flatMap_cons, List.flatMap_append, flatMap_walk_of_cons hnil hcons rest, hcons]

/-- The same for trees that are one node each. -/
theorem flatMap_walk_map_of_cons {τ : Type} {node : τ → Node} {walkAll : List τ → List α}
    (hnil : walkAll [] = [])
    (hcons : ∀ x rest, walkAll (x :: rest) = walk f (node x) ++ walkAll rest) (xs : List τ) :
    (xs.map node).flatMap (walk f) = walkAll xs := by
  rw [List.map_eq_flatMap]
  refine flatMap_walk_of_cons f hnil (fun x rest => ?_) xs
  rw [hcons, List.flatMap_singleton]

theorem flatMap_exprs (es : List Expr) : (es.map Node.expr).flatMap (walk f) = walkExprs f es :=
  flatMap_walk_map_of_cons f rfl (fun _ _ => rfl) es

theorem flatMap_ofPieces (ps : List Piece) : (ofPieces ps).flatMap (walk f) = walkPieces f ps := by
  refine flatMap_walk_map_of_cons f rfl (fun p rest => ?_) ps
  cases p
  rfl

/-- A clause is walked through piece by piece. -/
theorem flatMap_ofClause (c : Clause) : (ofClause c).flatMap (walk f) = c.walk f := by
  cases c
  exact flatMap_ofPieces f _

theorem flatMap_ofClauses (cs : List Clause) : (ofClauses cs).flatMap (walk f) = walkClauses f cs := by
  refine flatMap_walk_of_cons f rfl (fun c rest => ?_) cs
  rw [flatMap_ofClause, walkClauses]

theorem flatMap_statements (ss : List Statement) :
    (ss.map Node.statement).flatMap (walk f) = walkStatements f ss :=
  flatMap_walk_map_of_cons f rfl (fun _ _ => rfl) ss

theorem flatMap_relations (rs : List Relation) :
    (rs.map Node.relation).flatMap (walk f) = walkRelations f rs :=
  flatMap_walk_map_of_cons f rfl (fun _ _ => rfl) rs

theorem flatMap_ctes (cs : List Cte) :
    (cs.map fun c => Node.query c.query).flatMap (walk f) = walkCtes f cs := by
  refine flatMap_walk_map_of_cons f rfl (fun c rest => ?_) cs
  cases c
  rfl

theorem flatMap_ofOption (e : Option Expr) : (ofOption e).flatMap (walk f) = walkOption f e := by
  cases e with
  | none => rfl
  | some e => exact List.append_nil _

theorem flatMap_queryOption (q : Option Query) :
    (q.toList.map Node.query).flatMap (walk f) = walkQueryOption f q := by
  cases q with
  | none => rfl
  | some q => exact List.append_nil _

/-- The columns of a selection, each with the options of its star. -/
theorem flatMap_ofItems (items : List SelectItem) :
    (ofItems items).flatMap (walk f) = walkItems f items := by
  refine flatMap_walk_of_cons f rfl (fun i rest => ?_) items
  cases i with
  | expr e label => rw [ofItem, List.flatMap_singleton]; rfl
  | star span options => rw [ofItem, flatMap_ofClause]; rfl
  | starOf table span options => rw [ofItem, flatMap_ofClause]; rfl

theorem flatMap_joins (js : List Join) : (js.flatMap ofJoin).flatMap (walk f) = walkJoins f js := by
  refine flatMap_walk_of_cons f rfl (fun j rest => ?_) js
  cases j
  rw [ofJoin, List.flatMap_cons, flatMap_ofOption]
  rfl

theorem flatMap_ofWindow (w : Window) : (ofWindow w).flatMap (walk f) = w.walk f := by
  cases w with
  | none => rfl
  | named name => rfl
  | spec base partition order frame =>
    simp only [ofWindow, List.flatMap_append, flatMap_exprs, flatMap_ofPieces, flatMap_ofClause,
      Window.walk]

/-- A call: its arguments, its clauses, and the rows that it looks at. -/
theorem flatMap_ofCall (c : Call) : (ofCall c).flatMap (walk f) = c.walk f := by
  cases c
  simp only [ofCall, List.flatMap_append, flatMap_ofPieces, flatMap_ofOption, flatMap_ofWindow,
    Call.walk]

theorem flatMap_ofPivotSource (s : PivotSource) :
    (ofPivotSource s).flatMap (walk f) = s.walk f := by
  cases s with
  | list values => exact flatMap_ofPieces f values
  | any order => exact flatMap_ofPieces f order
  | subquery q => exact List.append_nil _

/-- An insertion, its rows before the clause that opens it. -/
theorem flatMap_ofInsertion (i : Insertion) : (ofInsertion i).flatMap (walk f) = i.walk f := by
  cases i
  simp only [ofInsertion, List.flatMap_append, flatMap_queryOption, flatMap_ofPieces,
    flatMap_ofClause, flatMap_ofItems, Insertion.walk]

theorem flatMap_ofUpdate (u : Update) : (ofUpdate u).flatMap (walk f) = u.walk f := by
  cases u
  simp only [ofUpdate, List.cons_append, List.flatMap_cons, List.flatMap_append, flatMap_ofPieces,
    flatMap_relations, flatMap_ofOption, flatMap_ofItems, Update.walk, walk, List.append_assoc]

theorem flatMap_ofDelete (d : Delete) : (ofDelete d).flatMap (walk f) = d.walk f := by
  cases d
  simp only [ofDelete, List.flatMap_append, flatMap_relations, flatMap_ofOption, flatMap_ofItems,
    flatMap_ofPieces, Delete.walk]

/-! ## A node and what it holds

One lemma for each type of tree: what is gathered in a tree is what is gathered at its own node and
then in its children. -/

/-- An expression and what it holds. There is a case for every constructor, and all are alike. -/
theorem walk_expr (e : Expr) :
    e.walk f = f (.expr e) ++ (ofExpr e).flatMap (walk f) := by
  cases e <;>
    simp only [Expr.walk, ofExpr, List.flatMap_nil, List.flatMap_cons, List.flatMap_append,
      flatMap_exprs, flatMap_ofPieces, flatMap_ofOption, flatMap_ofCall, walk, List.append_nil,
      List.append_assoc]

theorem walk_factor (t : Factor) :
    t.walk f = f (.factor t) ++ (ofFactor t).flatMap (walk f) := by
  cases t <;>
    simp only [Factor.walk, ofFactor, List.flatMap_nil, List.flatMap_cons, List.flatMap_append,
      List.cons_append, flatMap_exprs, flatMap_ofPieces, flatMap_ofClause, flatMap_ofPivotSource,
      walk, List.append_nil, List.append_assoc]

theorem walk_body (b : Body) :
    b.walk f = f (.body b) ++ (ofBody b).flatMap (walk f) := by
  cases b <;>
    simp only [Body.walk, ofBody, List.flatMap_nil, List.flatMap_cons, flatMap_exprs,
      flatMap_ofInsertion, flatMap_ofUpdate, walk, List.append_nil, List.append_assoc]

/-- A statement and what it holds. A definition of a table is a record of its own, and is taken apart
first. -/
theorem walk_statement (s : Statement) :
    s.walk f = f (.statement s) ++ (ofStatement s).flatMap (walk f) := by
  cases s with
  | createTable t =>
    cases t
    simp only [Statement.walk, ofStatement, List.flatMap_append, flatMap_ofClauses,
      flatMap_ofClause, flatMap_queryOption, TableDefinition.walk]
  | _ =>
    simp only [Statement.walk, ofStatement, List.flatMap_nil, List.flatMap_cons,
      List.flatMap_append, flatMap_ofClauses, flatMap_ofClause, flatMap_ofInsertion,
      flatMap_ofUpdate, flatMap_ofDelete, flatMap_statements, walk, List.append_nil,
      List.append_assoc]

/-- What is gathered in a node is what is gathered at it and then in the nodes that it holds. -/
theorem walk_eq (n : Node) : n.walk f = f n ++ n.children.flatMap (walk f) := by
  cases n with
  | statement s => exact walk_statement f s
  | body b => exact walk_body f b
  | factor t => exact walk_factor f t
  | expr e => exact walk_expr f e
  | query q =>
    cases q
    simp only [walk, Query.walk, children, List.flatMap_append, List.flatMap_cons, flatMap_ctes,
      flatMap_ofPieces, flatMap_ofOption, flatMap_ofClause, List.append_assoc]
  | select s =>
    cases s
    simp only [walk, Select.walk, children, List.flatMap_append, flatMap_exprs, flatMap_ofPieces,
      flatMap_ofItems, flatMap_relations, flatMap_ofOption, flatMap_ofClause, List.append_assoc]
  | relation r =>
    cases r
    simp only [walk, Relation.walk, children, List.flatMap_cons, flatMap_joins, List.append_assoc]

/-- **The nodes are the whole syntax.** Gathering along the nodes of a tree, each before what it
holds, is walking through the tree. The induction is on the size of the node. -/
theorem flatMap_preorder (n : Node) : n.preorder.flatMap f = n.walk f := by
  rw [preorder_eq, walk_eq, List.flatMap_cons, List.flatMap_assoc]
  congr 1
  refine List.flatMap_congr fun c hc => ?_
  have hsize := sizeOf_lt_of_mem_children hc
  exact flatMap_preorder c
termination_by sizeOf n

end Node

/-- Gathering along the nodes of a statement is walking through the statement. -/
theorem Statement.flatMap_nodes (s : Statement) : s.nodes.flatMap f = s.walk f :=
  Node.flatMap_preorder f (.statement s)

end QueryLint.Sql
