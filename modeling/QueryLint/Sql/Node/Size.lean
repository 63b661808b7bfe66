import QueryLint.Sql.Node.Basic

/-!
# Sizes of nodes

What a node holds is smaller than the node, so going down from a node comes to an end. Each way in
which a tree holds nodes has its lemma: all of them are `Below` the size of the tree. The lemmas on
larger trees put those on their fields together; `sizeOf_lt_of_mem_children` is the last of them.
-/

namespace QueryLint.Sql.Node

/-- Whether all of some nodes are smaller than a bound. -/
def Below (bound : Nat) (nodes : List Node) : Prop :=
  ∀ c ∈ nodes, sizeOf c < bound

@[simp]
theorem below_nil (bound : Nat) : Below bound [] := by
  intro c hc
  exact absurd hc List.not_mem_nil

@[simp]
theorem below_cons {bound : Nat} {n : Node} {rest : List Node} :
    Below bound (n :: rest) ↔ sizeOf n < bound ∧ Below bound rest :=
  List.forall_mem_cons

@[simp]
theorem below_append {bound : Nat} {xs ys : List Node} :
    Below bound (xs ++ ys) ↔ Below bound xs ∧ Below bound ys :=
  List.forall_mem_append

theorem Below.mono {small large : Nat} {nodes : List Node} (h : Below small nodes)
    (hle : small ≤ large) : Below large nodes := fun c hc => Nat.lt_of_lt_of_le (h c hc) hle

/-- Nodes that trees of a list hold are below the size of the list, if those of each tree are below
the size of the tree. -/
theorem below_flatMap {τ : Type} [SizeOf τ] {nodes : τ → List Node}
    (h : ∀ x, Below (sizeOf x + 1) (nodes x)) (xs : List τ) :
    Below (sizeOf xs + 1) (xs.flatMap nodes) := by
  intro c hc
  obtain ⟨x, hx, hc⟩ := List.mem_flatMap.1 hc
  have hlist := List.sizeOf_lt_of_mem hx
  have hnode := h x c hc
  omega

/-- The same for trees that are one node each. -/
theorem below_map {τ : Type} [SizeOf τ] {node : τ → Node} (h : ∀ x, sizeOf (node x) ≤ sizeOf x + 1)
    (xs : List τ) : Below (sizeOf xs + 1) (xs.map node) := by
  intro c hc
  obtain ⟨x, hx, rfl⟩ := List.mem_map.1 hc
  have hlist := List.sizeOf_lt_of_mem hx
  have hnode := h x
  omega

theorem below_exprs (es : List Expr) : Below (sizeOf es + 1) (es.map Node.expr) :=
  below_map (fun e => by rw [Node.expr.sizeOf_spec]; omega) es

theorem below_relations (rs : List Relation) : Below (sizeOf rs + 1) (rs.map Node.relation) :=
  below_map (fun r => by rw [Node.relation.sizeOf_spec]; omega) rs

theorem below_statements (ss : List Statement) : Below (sizeOf ss + 1) (ss.map Node.statement) :=
  below_map (fun s => by rw [Node.statement.sizeOf_spec]; omega) ss

theorem below_ctes (cs : List Cte) : Below (sizeOf cs + 1) (cs.map fun c => Node.query c.query) :=
  below_map (fun c => by
    cases c
    simp only [Node.query.sizeOf_spec, Cte.mk.sizeOf_spec]
    omega) cs

theorem below_ofPieces (ps : List Piece) : Below (sizeOf ps + 1) (ofPieces ps) :=
  below_map (fun p => by
    cases p
    simp only [ofPiece, Node.expr.sizeOf_spec, Piece.mk.sizeOf_spec]
    omega) ps

/-- The nodes of a clause are below its size, since they are those of its pieces. -/
theorem below_ofClause (c : Clause) : Below (sizeOf c + 1) (ofClause c) := by
  obtain ⟨pieces, ending⟩ := c
  have hsize : sizeOf pieces + 1 ≤ sizeOf (⟨pieces, ending⟩ : Clause) + 1 := by
    rw [Clause.mk.sizeOf_spec]
    omega
  exact (below_ofPieces pieces).mono hsize

theorem below_ofClauses (cs : List Clause) : Below (sizeOf cs + 1) (ofClauses cs) :=
  below_flatMap below_ofClause cs

theorem below_ofOption (e : Option Expr) : Below (sizeOf e + 1) (ofOption e) := by
  cases e <;> simp [ofOption]

theorem below_queryOption (q : Option Query) : Below (sizeOf q + 1) (q.toList.map Node.query) := by
  cases q <;> simp

/-- A column holds an expression, or the options of a star do. -/
theorem below_ofItem (i : SelectItem) : Below (sizeOf i + 1) (ofItem i) := by
  cases i with
  | expr e label =>
    simp only [ofItem, below_cons, below_nil, and_true, Node.expr.sizeOf_spec,
      SelectItem.expr.sizeOf_spec]
    omega
  | star span options => exact (below_ofClause options).mono (by simp)
  | starOf table span options => exact (below_ofClause options).mono (by simp)

theorem below_ofItems (items : List SelectItem) : Below (sizeOf items + 1) (ofItems items) :=
  below_flatMap below_ofItem items

theorem below_ofJoin (j : Join) : Below (sizeOf j + 1) (ofJoin j) := by
  obtain ⟨words, factor, condition, columns⟩ := j
  simp only [ofJoin, below_cons, Join.mk.sizeOf_spec, Node.factor.sizeOf_spec]
  exact ⟨by omega, (below_ofOption condition).mono (by omega)⟩

theorem below_joins (js : List Join) : Below (sizeOf js + 1) (js.flatMap ofJoin) :=
  below_flatMap below_ofJoin js

theorem below_ofWindow (w : Window) : Below (sizeOf w + 1) (ofWindow w) := by
  cases w with
  | none => exact below_nil _
  | named name => exact below_nil _
  | spec base partition order frame =>
    simp only [ofWindow, below_append, Window.spec.sizeOf_spec]
    exact ⟨⟨(below_exprs partition).mono (by omega), (below_ofPieces order).mono (by omega)⟩,
      (below_ofClause frame).mono (by omega)⟩

theorem below_ofCall (c : Call) : Below (sizeOf c + 1) (ofCall c) := by
  cases c
  simp only [ofCall, below_append, Call.mk.sizeOf_spec]
  refine ⟨⟨⟨⟨?args, ?clauses⟩, ?filter⟩, ?window⟩, ?within⟩
  case args => exact (below_ofPieces _).mono (by omega)
  case clauses => exact (below_ofPieces _).mono (by omega)
  case filter => exact (below_ofOption _).mono (by omega)
  case window => exact (below_ofWindow _).mono (by omega)
  case within => exact (below_ofPieces _).mono (by omega)

theorem below_ofPivotSource (s : PivotSource) : Below (sizeOf s + 1) (ofPivotSource s) := by
  cases s with
  | list values => exact (below_ofPieces values).mono (by simp)
  | any order => exact (below_ofPieces order).mono (by simp)
  | subquery q => simp [ofPivotSource]

theorem below_ofInsertion (i : Insertion) : Below (sizeOf i + 1) (ofInsertion i) := by
  cases i
  simp only [ofInsertion, below_append, Insertion.mk.sizeOf_spec]
  refine ⟨⟨⟨⟨?source, ?assignments⟩, ?head⟩, ?conflict⟩, ?returning⟩
  case source => exact (below_queryOption _).mono (by omega)
  case assignments => exact (below_ofPieces _).mono (by omega)
  case head => exact (below_ofClause _).mono (by omega)
  case conflict => exact (below_ofClause _).mono (by omega)
  case returning => exact (below_ofItems _).mono (by omega)

theorem below_ofUpdate (u : Update) : Below (sizeOf u + 1) (ofUpdate u) := by
  cases u
  simp only [ofUpdate, List.cons_append, below_cons, below_append, Update.mk.sizeOf_spec,
    Node.relation.sizeOf_spec]
  refine ⟨?target, ⟨⟨?assignments, ?froms⟩, ?filter⟩, ?returning⟩
  case target => omega
  case assignments => exact (below_ofPieces _).mono (by omega)
  case froms => exact (below_relations _).mono (by omega)
  case filter => exact (below_ofOption _).mono (by omega)
  case returning => exact (below_ofItems _).mono (by omega)

theorem below_ofDelete (d : Delete) : Below (sizeOf d + 1) (ofDelete d) := by
  cases d
  simp only [ofDelete, below_append, Delete.mk.sizeOf_spec]
  refine ⟨⟨⟨⟨⟨?froms, ?usings⟩, ?filter⟩, ?returning⟩, ?order⟩, ?limit⟩
  case froms => exact (below_relations _).mono (by omega)
  case usings => exact (below_relations _).mono (by omega)
  case filter => exact (below_ofOption _).mono (by omega)
  case returning => exact (below_ofItems _).mono (by omega)
  case order => exact (below_ofPieces _).mono (by omega)
  case limit => exact (below_ofOption _).mono (by omega)

theorem below_ofExpr (e : Expr) : Below (sizeOf e + 1) (ofExpr e) := by
  cases e with
  | call c => exact (below_ofCall c).mono (by simp)
  | phrase pieces => exact (below_ofPieces pieces).mono (by simp)
  | tuple items => exact (below_exprs items).mono (by simp)
  | array named items => exact (below_exprs items).mono (by simp)
  | inList operand negated items =>
    simp only [ofExpr, below_cons, Expr.inList.sizeOf_spec, Node.expr.sizeOf_spec]
    exact ⟨by omega, (below_exprs items).mono (by omega)⟩
  | case operand conditions results otherwise =>
    simp only [ofExpr, below_append, Expr.case.sizeOf_spec]
    exact ⟨⟨⟨(below_ofOption operand).mono (by omega), (below_exprs conditions).mono (by omega)⟩,
      (below_exprs results).mono (by omega)⟩, (below_ofOption otherwise).mono (by omega)⟩
  | _ =>
    -- What is left holds a fixed number of expressions and queries, each as it is.
    simp [ofExpr] <;> omega

theorem below_ofFactor (f : Factor) : Below (sizeOf f + 1) (ofFactor f) := by
  cases f with
  | table name called args ordinality label ending =>
    simp only [ofFactor, below_append, Factor.table.sizeOf_spec]
    exact ⟨(below_ofPieces args).mono (by omega), (below_ofClause ending).mono (by omega)⟩
  | function lateral name args label =>
    exact (below_ofPieces args).mono (by rw [Factor.function.sizeOf_spec]; omega)
  | unnest arrays ordinality label ending =>
    exact (below_exprs arrays).mono (by rw [Factor.unnest.sizeOf_spec]; omega)
  | pivot operand aggregates column source ending label =>
    simp only [ofFactor, List.cons_append, below_cons, below_append, Factor.pivot.sizeOf_spec,
      Node.factor.sizeOf_spec]
    exact ⟨by omega, ⟨(below_ofPieces aggregates).mono (by omega),
      (below_ofPivotSource source).mono (by omega)⟩, (below_ofClause ending).mono (by omega)⟩
  | matchRecognize operand partition order measures pattern definitions label =>
    simp only [ofFactor, List.cons_append, below_cons, below_append,
      Factor.matchRecognize.sizeOf_spec, Node.factor.sizeOf_spec]
    refine ⟨?operand, ⟨⟨?partition, ?order⟩, ?measures⟩, ?definitions⟩
    case operand => omega
    case partition => exact (below_exprs _).mono (by omega)
    case order => exact (below_ofPieces _).mono (by omega)
    case measures => exact (below_ofPieces _).mono (by omega)
    case definitions => exact (below_ofPieces _).mono (by omega)
  | _ =>
    simp [ofFactor] <;> omega

theorem below_ofBody (b : Body) : Below (sizeOf b + 1) (ofBody b) := by
  cases b with
  | select s => simp [ofBody]
  | query q => simp [ofBody]
  | setOperation left op quantifier right =>
    simp only [ofBody, below_cons, below_nil, and_true, Node.body.sizeOf_spec,
      Body.setOperation.sizeOf_spec]
    omega
  | values withRow rows => exact (below_exprs rows).mono (by simp)
  | table name => exact below_nil _
  | insert i => exact (below_ofInsertion i).mono (by simp)
  | update u => exact (below_ofUpdate u).mono (by simp)

theorem below_ofStatement (s : Statement) : Below (sizeOf s + 1) (ofStatement s) := by
  cases s with
  | query q => simp [ofStatement]
  | insert i => exact (below_ofInsertion i).mono (by simp)
  | update u => exact (below_ofUpdate u).mono (by simp)
  | delete d => exact (below_ofDelete d).mono (by simp)
  | createTable t =>
    cases t
    simp only [ofStatement, below_append, Statement.createTable.sizeOf_spec,
      TableDefinition.mk.sizeOf_spec]
    exact ⟨⟨(below_ofClauses _).mono (by omega), (below_ofClause _).mono (by omega)⟩,
      (below_queryOption _).mono (by omega)⟩
  | createView head q ending =>
    simp only [ofStatement, below_append, below_cons, Statement.createView.sizeOf_spec,
      Node.query.sizeOf_spec]
    exact ⟨(below_ofClause head).mono (by omega), by omega,
      (below_ofClause ending).mono (by omega)⟩
  | alterTable head operations => exact (below_ofClauses operations).mono (by simp)
  | commit chain => exact below_nil _
  | words clause => exact (below_ofClause clause).mono (by simp)
  | explain head inner =>
    simp only [ofStatement, below_cons, Statement.explain.sizeOf_spec, Node.statement.sizeOf_spec]
    exact ⟨by omega, (below_ofClause head).mono (by omega)⟩
  | block head statements =>
    simp only [ofStatement, below_append, Statement.block.sizeOf_spec]
    exact ⟨(below_ofClause head).mono (by omega), (below_statements statements).mono (by omega)⟩

theorem below_query (q : Query) : Below (sizeOf q + 1) (children (.query q)) := by
  cases q
  simp only [children, List.append_assoc, List.cons_append, below_append, below_cons,
    Node.body.sizeOf_spec, Query.mk.sizeOf_spec]
  refine ⟨?ctes, ?body, ?order, ?limit, ?offset, ?ending⟩
  case ctes => exact (below_ctes _).mono (by omega)
  case body => omega
  case order => exact (below_ofPieces _).mono (by omega)
  case limit => exact (below_ofOption _).mono (by omega)
  case offset => exact (below_ofOption _).mono (by omega)
  case ending => exact (below_ofClause _).mono (by omega)

theorem below_select (s : Select) : Below (sizeOf s + 1) (children (.select s)) := by
  cases s
  simp only [children, List.append_assoc, below_append, Select.mk.sizeOf_spec]
  refine ⟨?distinctOn, ?top, ?items, ?froms, ?views, ?filter, ?group, ?groupEnding, ?having,
    ?ending⟩
  case distinctOn => exact (below_exprs _).mono (by omega)
  case top => exact (below_ofPieces _).mono (by omega)
  case items => exact (below_ofItems _).mono (by omega)
  case froms => exact (below_relations _).mono (by omega)
  case views => exact (below_ofClause _).mono (by omega)
  case filter => exact (below_ofOption _).mono (by omega)
  case group => exact (below_exprs _).mono (by omega)
  case groupEnding => exact (below_ofClause _).mono (by omega)
  case having => exact (below_ofOption _).mono (by omega)
  case ending => exact (below_ofClause _).mono (by omega)

theorem below_relation (r : Relation) : Below (sizeOf r + 1) (children (.relation r)) := by
  cases r
  simp only [children, below_cons, Node.factor.sizeOf_spec, Relation.mk.sizeOf_spec]
  exact ⟨by omega, (below_joins _).mono (by omega)⟩

/-- What a node holds is smaller than the node. -/
theorem sizeOf_lt_of_mem_children {n c : Node} (h : c ∈ n.children) : sizeOf c < sizeOf n := by
  have hbelow : Below (sizeOf n) n.children := by
    cases n with
    | statement s => exact (below_ofStatement s).mono (by rw [Node.statement.sizeOf_spec]; omega)
    | query q => exact (below_query q).mono (by rw [Node.query.sizeOf_spec]; omega)
    | body b => exact (below_ofBody b).mono (by rw [Node.body.sizeOf_spec]; omega)
    | select s => exact (below_select s).mono (by rw [Node.select.sizeOf_spec]; omega)
    | relation r => exact (below_relation r).mono (by rw [Node.relation.sizeOf_spec]; omega)
    | factor f => exact (below_ofFactor f).mono (by rw [Node.factor.sizeOf_spec]; omega)
    | expr e => exact (below_ofExpr e).mono (by rw [Node.expr.sizeOf_spec]; omega)
  exact hbelow c h

end QueryLint.Sql.Node
