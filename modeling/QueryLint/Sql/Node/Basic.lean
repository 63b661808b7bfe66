import QueryLint.Sql.Syntax

/-!
# Nodes of a statement

The parts of a statement as one kind of thing, so that all of them can be gone through. `children`
gives the parts that a node holds directly, for the most part in the order in which they are written:
what is asked about a statement that is explained comes behind the statement, and the clause that opens
an insertion behind its rows.
-/

namespace QueryLint.Sql

/-- A part of a statement, or the whole. -/
inductive Node
  | statement (statement : Statement)
  | query (query : Query)
  | body (body : Body)
  | select (select : Select)
  | relation (relation : Relation)
  | factor (factor : Factor)
  | expr (expr : Expr)

namespace Node

/-- The node of an expression among text. -/
def ofPiece (p : Piece) : Node := .expr p.expr

/-- The nodes of expressions among text. -/
def ofPieces (pieces : List Piece) : List Node := pieces.map ofPiece

/-- The nodes of a part without a form of its own. -/
def ofClause (c : Clause) : List Node := ofPieces c.pieces

/-- The nodes of several such parts. -/
def ofClauses (clauses : List Clause) : List Node := clauses.flatMap ofClause

/-- The node of an expression that may be missing. -/
def ofOption (e : Option Expr) : List Node := e.toList.map .expr

/-- The nodes of a column of a selection. -/
def ofItem : SelectItem → List Node
  | .expr e _ => [.expr e]
  | .star _ options | .starOf _ _ options => ofClause options

/-- The nodes of the columns of a selection. -/
def ofItems (items : List SelectItem) : List Node := items.flatMap ofItem

/-- The nodes of a joined table factor. -/
def ofJoin (j : Join) : List Node := .factor j.factor :: ofOption j.condition

/-- The nodes of the rows that a function looks at. -/
def ofWindow : Window → List Node
  | .spec _ partition order frame => partition.map .expr ++ ofPieces order ++ ofClause frame
  | _ => []

/-- The nodes of a call. -/
def ofCall (c : Call) : List Node :=
  ofPieces c.args ++ ofPieces c.clauses ++ ofOption c.filter ++ ofWindow c.window ++ ofPieces c.within

/-- The nodes of the values that a pivot turns into columns. -/
def ofPivotSource : PivotSource → List Node
  | .list values => ofPieces values
  | .any order => ofPieces order
  | .subquery q => [.query q]

/-- The nodes of an insertion. -/
def ofInsertion (i : Insertion) : List Node :=
  i.source.toList.map .query ++ ofPieces i.assignments ++ ofClause i.head ++ ofClause i.conflict
    ++ ofItems i.returning

/-- The nodes of a change of rows. -/
def ofUpdate (u : Update) : List Node :=
  .relation u.target :: ofPieces u.assignments ++ u.froms.map .relation ++ ofOption u.filter
    ++ ofItems u.returning

/-- The nodes of a removal of rows. -/
def ofDelete (d : Delete) : List Node :=
  d.froms.map .relation ++ d.usings.map .relation ++ ofOption d.filter ++ ofItems d.returning
    ++ ofPieces d.order ++ ofOption d.limit

/-- The nodes that an expression holds. -/
def ofExpr : Expr → List Node
  | .name _ | .star | .starOf _ | .literal _ | .typed _ _ => []
  | .unary _ e | .test e _ | .cast _ e _ | .nested e | .collate e _ => [.expr e]
  | .binary a _ b | .quantified a _ _ b | .distinctFrom a _ b | .like a _ _ b _ | .index a b =>
    [.expr a, .expr b]
  | .between e _ low high => [.expr e, .expr low, .expr high]
  | .inList e _ items => .expr e :: items.map .expr
  | .inQuery e _ q => [.expr e, .query q]
  | .tuple items | .array _ items => items.map .expr
  | .subquery q | .exists _ q | .arrayOf q => [.query q]
  | .case operand conditions results otherwise =>
    ofOption operand ++ conditions.map .expr ++ results.map .expr ++ ofOption otherwise
  | .call c => ofCall c
  | .phrase pieces => ofPieces pieces

/-- The nodes that a table factor holds. -/
def ofFactor : Factor → List Node
  | .table _ _ args _ _ ending => ofPieces args ++ ofClause ending
  | .function _ _ args _ => ofPieces args
  | .derived _ q _ => [.query q]
  | .tableOf e _ | .jsonTable e _ _ _ | .openJson e _ _ _ => [.expr e]
  | .unnest arrays _ _ _ => arrays.map .expr
  | .nested r _ => [.relation r]
  | .pivot operand aggregates _ source ending _ =>
    .factor operand :: ofPieces aggregates ++ ofPivotSource source ++ ofClause ending
  | .unpivot operand _ _ _ _ => [.factor operand]
  | .matchRecognize operand partition order measures _ definitions _ =>
    .factor operand :: partition.map .expr ++ ofPieces order ++ ofPieces measures
      ++ ofPieces definitions

/-- The nodes that a statement holds. -/
def ofStatement : Statement → List Node
  | .query q => [.query q]
  | .insert i => ofInsertion i
  | .update u => ofUpdate u
  | .delete d => ofDelete d
  | .createTable t => ofClauses t.elements ++ ofClause t.options ++ t.query.toList.map .query
  | .createView head q ending => ofClause head ++ .query q :: ofClause ending
  | .alterTable _ operations => ofClauses operations
  | .commit _ => []
  | .words clause => ofClause clause
  | .explain head s => .statement s :: ofClause head
  | .block head statements => ofClause head ++ statements.map .statement

/-- The nodes that a body holds. -/
def ofBody : Body → List Node
  | .select s => [.select s]
  | .query q => [.query q]
  | .setOperation left _ _ right => [.body left, .body right]
  | .values _ rows => rows.map .expr
  | .table _ => []
  | .insert i => ofInsertion i
  | .update u => ofUpdate u

/-- The nodes that a node holds. -/
def children : Node → List Node
  | .statement s => ofStatement s
  | .query q =>
    q.ctes.map (fun c => .query c.query) ++ .body q.body :: ofPieces q.order ++ ofOption q.limit
      ++ ofOption q.offset ++ ofClause q.ending
  | .body b => ofBody b
  | .select s =>
    s.distinctOn.map .expr ++ ofPieces s.top ++ ofItems s.items ++ s.froms.map .relation
      ++ ofClause s.views ++ ofOption s.filter ++ s.group.map .expr ++ ofClause s.groupEnding
      ++ ofOption s.having ++ ofClause s.ending
  | .relation r => .factor r.factor :: r.joins.flatMap ofJoin
  | .factor f => ofFactor f
  | .expr e => ofExpr e

end Node

end QueryLint.Sql
