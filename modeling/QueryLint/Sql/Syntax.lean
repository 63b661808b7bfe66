import QueryLint.Sql.Token

/-!
# The syntax of SQL

Statements as trees. Queries, their bodies, table factors and expressions are mutually recursive;
definitions of tables and views, and the statements themselves, stand outside. An expression is always
kept as such, wherever it stands, since there may be a query in it. What only matters for writing a
statement back is kept as text: the names of types, the words between two expressions, and the parts
that can hold no expression at all (the target of `INTO`, locks, the columns of a document that is read
as a table, the pattern that rows are matched with).

Where the syntax has very many forms of which none matters more than the others, there is a `Clause`:
expressions with the text around them. Star options, the bounds of a window, the hints of a table and
the clauses behind `HAVING` are such, and so is every statement that is neither a query nor one of the
common changes and definitions (`Statement.words`).
-/

namespace QueryLint.Sql

/-- A name as it is written, with its quote. -/
structure Ident where
  text : String
  quote : Option Char := none
  deriving DecidableEq, Repr, Inhabited

/-- A name with its qualifiers. -/
abbrev ObjectName := List Ident

/-- A column of an alias, with its type where one is given. -/
structure AliasColumn where
  name : Ident
  type : Option String
  deriving DecidableEq, Repr

/-- The name given to a table factor, and to its columns. -/
structure TableAlias where
  name : Ident
  columns : List AliasColumn := []
  deriving DecidableEq, Repr

/-- A value that is written out. -/
inductive Literal
  /-- A number, with a mark where an `L` follows it. -/
  | number (text : String) (long : Bool)
  /-- A literal between quotes. -/
  | quoted (kind : QuotedKind) (text : String)
  /-- A text between dollar signs. -/
  | dollarQuoted (tag : String) (text : String)
  /-- A truth value. -/
  | boolean (value : Bool)
  /-- The value that is missing. -/
  | null
  /-- A parameter. -/
  | placeholder (text : String)
  deriving DecidableEq, Repr

/-- How an expression is brought to a type. -/
inductive CastStyle
  | cast
  | tryCast
  | safeCast
  | doubleColon
  deriving DecidableEq, Repr

/-- The set operators of query bodies. -/
inductive SetOperator
  | union
  | except
  | intersect
  deriving DecidableEq, Repr

mutual

/-- An expression. -/
inductive Expr
  /-- A name, qualified or not. -/
  | name (parts : ObjectName)
  /-- The star that stands for all columns. -/
  | star
  /-- The star that stands for all columns of a table. -/
  | starOf (table : ObjectName)
  /-- A value that is written out. -/
  | literal (value : Literal)
  /-- A text after the name of its type. -/
  | typed (type : String) (text : Literal)
  /-- An operator before its operand. -/
  | unary (op : String) (operand : Expr)
  /-- An operator between its operands. -/
  | binary (left : Expr) (op : String) (right : Expr)
  /-- A comparison with any or all of several values. -/
  | quantified (left : Expr) (op : String) (quantifier : String) (right : Expr)
  /-- A test for one of the special values. -/
  | test (operand : Expr) (words : String)
  /-- Whether two values differ, missing ones included. -/
  | distinctFrom (left : Expr) (negated : Bool) (right : Expr)
  /-- A value between two others. -/
  | between (operand : Expr) (negated : Bool) (low high : Expr)
  /-- A value among others. -/
  | inList (operand : Expr) (negated : Bool) (items : List Expr)
  /-- A value among the rows of a query. -/
  | inQuery (operand : Expr) (negated : Bool) (query : Query)
  /-- A text that matches a pattern. -/
  | like (operand : Expr) (negated : Bool) (op : String) (pattern : Expr) (escape : Option String)
  /-- An expression brought to a type. -/
  | cast (style : CastStyle) (operand : Expr) (type : String)
  /-- An expression between parentheses. -/
  | nested (operand : Expr)
  /-- Several expressions between parentheses. -/
  | tuple (items : List Expr)
  /-- A query as a value. -/
  | subquery (query : Query)
  /-- Whether a query has rows. -/
  | «exists» (negated : Bool) (query : Query)
  /-- A choice; the conditions come before the results. -/
  | case (operand : Option Expr) (conditions results : List Expr) (otherwise : Option Expr)
  /-- A call of a function. -/
  | call (function : Call)
  /-- A list of values between brackets. -/
  | array (named : Bool) (items : List Expr)
  /-- A query whose rows make up an array. -/
  | arrayOf (query : Query)
  /-- An item of an array. -/
  | index (operand position : Expr)
  /-- An expression under a collation. -/
  | collate (operand : Expr) (collation : ObjectName)
  /-- A special form: expressions with the words around them. -/
  | phrase (pieces : List Piece)

/-- An expression with the text before and after it. -/
structure Piece where
  before : String
  expr : Expr
  after : String

/-- A part of the syntax without a form of its own: expressions with the text around them, and the
text at its end. -/
structure Clause where
  pieces : List Piece
  ending : String

/-- A call of a function. -/
structure Call where
  name : ObjectName
  /-- Whether there are parentheses at all. -/
  parenthesized : Bool
  /-- The word before the arguments. -/
  treatment : String
  args : List Piece
  clauses : List Piece
  ending : String
  /-- The order of the rows within their group. -/
  within : List Piece
  filter : Option Expr
  /-- Whether missing values count. -/
  nulls : String
  window : Window

/-- The rows that a function looks at. -/
inductive Window
  | none
  | named (name : Ident)
  | spec (base : Option Ident) (partition : List Expr) (order : List Piece) (frame : Clause)

/-- A query. -/
structure Query where
  recursive : Bool
  ctes : List Cte
  body : Body
  order : List Piece
  limit : Option Expr
  offset : Option Expr
  offsetRows : String
  /-- What else is said of the rows that are given: `FETCH`, locks and the like. -/
  ending : Clause

/-- A query with a name, for use in another. -/
structure Cte where
  label : TableAlias
  materialized : String
  query : Query
  source : Option Ident

/-- The body of a query. -/
inductive Body
  | select (select : Select)
  | query (query : Query)
  | setOperation (left : Body) (op : SetOperator) (quantifier : String) (right : Body)
  | values (withRow : Bool) (rows : List Expr)
  | table (name : String)
  | insert (insertion : Insertion)
  | update (update : Update)

/-- A selection of columns from tables. -/
structure Select where
  /-- From the word that opens it to its last token. -/
  span : Span
  /-- Whether equal rows are dropped. -/
  distinct : Bool
  /-- The expressions whose equality counts. -/
  distinctOn : List Expr
  top : List Piece
  items : List SelectItem
  into : String
  froms : List Relation
  /-- What may stand between the tables and the condition, such as lateral views. -/
  views : Clause
  filter : Option Expr
  group : List Expr
  groupEnding : Clause
  having : Option Expr
  /-- What may stand behind all of that, such as named windows and `QUALIFY`. -/
  ending : Clause

/-- A column of a selection. -/
inductive SelectItem
  /-- An expression, with a name or without. -/
  | expr (expr : Expr) (label : Option Ident)
  /-- All columns. -/
  | star (span : Span) (options : Clause)
  /-- All columns of a table. -/
  | starOf (table : ObjectName) (span : Span) (options : Clause)

/-- A table factor with all that is joined to it. -/
structure Relation where
  factor : Factor
  joins : List Join

/-- A joined table factor. -/
structure Join where
  /-- The words of the join. -/
  words : String
  factor : Factor
  /-- The condition under which rows are joined. -/
  condition : Option Expr
  /-- The columns that have to be equal. -/
  columns : List Ident

/-- A table or what stands for one. -/
inductive Factor
  /-- A table by name, perhaps a function that gives one. -/
  | table (name : ObjectName) (called : Bool) (args : List Piece) (ordinality : Bool)
    (label : Option TableAlias) (ending : Clause)
  /-- A query between parentheses. -/
  | derived (lateral : Bool) (query : Query) (label : Option TableAlias)
  /-- A function that gives a table for each row before it. -/
  | function (lateral : Bool) (name : ObjectName) (args : List Piece) (label : Option TableAlias)
  /-- An expression that gives a table. -/
  | tableOf (expr : Expr) (label : Option TableAlias)
  /-- Arrays as a table. -/
  | unnest (arrays : List Expr) (ordinality : Bool) (label : Option TableAlias) (ending : String)
  /-- A document as a table. -/
  | jsonTable (document : Expr) (path columns : String) (label : Option TableAlias)
  /-- A document as a table, its columns after it. -/
  | openJson (document : Expr) (path columns : String) (label : Option TableAlias)
  /-- Joined tables between parentheses. -/
  | nested (relation : Relation) (label : Option TableAlias)
  /-- A table whose rows are turned into columns. -/
  | pivot (operand : Factor) (aggregates : List Piece) (column : ObjectName) (source : PivotSource)
    (ending : Clause) (label : Option TableAlias)
  /-- A table whose columns are turned into rows. -/
  | unpivot (operand : Factor) (value name : Ident) (columns : List Ident)
    (label : Option TableAlias)
  /-- A table whose rows are matched with a pattern. -/
  | matchRecognize (operand : Factor) (partition : List Expr) (order measures : List Piece)
    (pattern : String) (definitions : List Piece) (label : Option TableAlias)

/-- The values that a pivot turns into columns. -/
inductive PivotSource
  | list (values : List Piece)
  | any (order : List Piece)
  | subquery (query : Query)

/-- An insertion of rows. -/
structure Insertion where
  head : Clause
  source : Option Query
  assignments : List Piece
  /-- What is done about rows that are there already. -/
  conflict : Clause
  returning : List SelectItem

/-- A change of rows. -/
structure Update where
  head : String
  target : Relation
  assignments : List Piece
  froms : List Relation
  filter : Option Expr
  returning : List SelectItem

end

/-- A removal of rows. -/
structure Delete where
  tables : List ObjectName
  /-- Whether the word `FROM` is written. -/
  hasFrom : Bool
  froms : List Relation
  usings : List Relation
  filter : Option Expr
  returning : List SelectItem
  order : List Piece
  limit : Option Expr

/-- A definition of a table. -/
structure TableDefinition where
  head : String
  elements : List Clause
  options : Clause
  query : Option Query

/-- A statement. -/
inductive Statement
  | query (query : Query)
  | insert (insertion : Insertion)
  | update (update : Update)
  | delete (delete : Delete)
  | createTable (definition : TableDefinition)
  | createView (head : Clause) (query : Query) (ending : Clause)
  | alterTable (head : String) (operations : List Clause)
  /-- The end of a transaction that is kept. -/
  | commit (chain : Bool)
  /-- A statement of any other kind. -/
  | words (clause : Clause)
  /-- A statement that is explained, or prepared, and what is asked about it. -/
  | explain (head : Clause) (statement : Statement)
  /-- The statements that a procedure is made of. -/
  | block (head : Clause) (statements : List Statement)

/-! ## Making clauses -/

namespace Clause

/-- A clause that holds no expression. -/
def plain (text : String) : Clause := ⟨[], text⟩

/-- Whether nothing is written at all. -/
def isEmpty (c : Clause) : Bool := c.pieces.isEmpty && c.ending.isEmpty

/-- A clause behind some text. -/
def behind (text : String) (c : Clause) : Clause :=
  match c.pieces with
  | [] => ⟨[], text ++ c.ending⟩
  | first :: rest => ⟨⟨text ++ first.before, first.expr, first.after⟩ :: rest, c.ending⟩

/-- Two clauses, one behind the other. -/
def append (a b : Clause) : Clause :=
  let b := behind a.ending b
  ⟨a.pieces ++ b.pieces, b.ending⟩

/-- Several clauses, one behind the other. -/
def concat : List Clause → Clause
  | [] => plain ""
  | c :: rest => append c (concat rest)

/-- Several clauses with a comma and a blank between them. -/
def listed : List Clause → Clause
  | [] => plain ""
  | [c] => c
  | c :: rest => append c (behind ", " (listed rest))

end Clause

end QueryLint.Sql
