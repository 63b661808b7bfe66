import QueryLint.Sql.Grammar.Name

/-!
# What reading a part needs of the other parts

Expressions hold queries, queries hold expressions and statements, and tables hold both. Each family
is read by functions that are given the readers of the others as a `Grammar`; the families are tied
together where statements are read.
-/

namespace QueryLint.Sql

/-- The readers that the families share. -/
structure Grammar where
  /-- An expression out of operators that bind more strongly than the strength given. -/
  expr : Nat → Read Expr
  /-- An expression without an operator between operands. -/
  operand : Read Expr
  /-- A query. -/
  query : Read Query
  /-- The body of a query, out of set operators that bind more strongly than the strength given. -/
  body : Nat → Read Body
  /-- A table factor with all that is joined to it. -/
  relation : Read Relation
  /-- A table factor. -/
  factor : Read Factor
  /-- A statement. -/
  statement : Read Statement

namespace Grammar

open Read

/-- Any expression. -/
def anyExpr (g : Grammar) : Read Expr := g.expr 0

/-- An expression on its own. -/
def piece (e : Expr) : Piece := ⟨"", e, ""⟩

/-- Whether a query comes next. -/
def peekQuery : Read Bool := do
  return (← peekKeyword "SELECT") || (← peekKeyword "WITH")

/-- An expression by which rows are ordered. -/
def orderItem (g : Grammar) : Read Piece := do
  let e ← g.anyExpr
  let direction ←
    if ← keyword "ASC" then pure " ASC" else if ← keyword "DESC" then pure " DESC" else pure ""
  let nulls ←
    if ← keywords ["NULLS", "FIRST"] then pure " NULLS FIRST"
    else if ← keywords ["NULLS", "LAST"] then pure " NULLS LAST" else pure ""
  return ⟨"", e, direction ++ nulls⟩

/-- The expressions by which rows are ordered, if any. -/
def orderBy (g : Grammar) : Read (List Piece) :=
  afterKeywords ["ORDER", "BY"] (commas g.orderItem)

/-- The expression behind `WHERE`, if any. -/
def whereClause (g : Grammar) : Read (Option Expr) :=
  afterKeyword "WHERE" g.anyExpr

/-- The number of rows behind `LIMIT`; `ALL` is no limit. -/
def limit (g : Grammar) : Read (Option Expr) := do
  if ← keyword "ALL" then return none else return some (← g.anyExpr)

/-- An expression with a name behind `AS`, if one is given. -/
def aliased (g : Grammar) : Read Piece := do
  let e ← g.anyExpr
  match ← afterKeyword "AS" ident with
  | none => return piece e
  | some name => return ⟨"", e, " AS " ++ name.spell⟩

/-- A new value of a column, or of several columns at once. -/
def assignment (g : Grammar) : Read Piece := do
  let target ←
    if ← symbol "(" then
      let names ← commas objectName
      expectSymbol ")"
      pure ("(" ++ commaSeparated (names.map ObjectName.spell) ++ ")")
    else pure (ObjectName.spell (← objectName))
  expectSymbol "="
  return ⟨target ++ " = ", ← g.anyExpr, ""⟩

/-- The rest of a name with its qualifiers, up to a star if one ends it. -/
def starName : Nat → List (Ident × Span) → Read (Option (List (Ident × Span) × Span))
  | 0, _ => return none
  | fuel + 1, parts => do
    if ← symbol "." then
      let t ← next
      match t.token with
      | .word text quote _ => starName fuel (parts ++ [(⟨text, quote⟩, t.span)])
      | .quoted .single text => starName fuel (parts ++ [(⟨text, some '\''⟩, Span.unknown)])
      | .symbol "*" => return some (parts, t.span)
      | _ => expected "an identifier or a '*' after '.'" t
    else return none

/-- What may stand where a star is allowed. -/
inductive Starred
  | star (span : Span)
  | starOf (parts : List (Ident × Span)) (span : Span)
  | expr (e : Expr)

/-- A star, the star of a table, or an expression. -/
def starOrExpr (g : Grammar) : Read Starred := do
  let start ← get
  let t ← next
  let found ← match t.token with
    | .symbol "*" => return .star t.span
    | .word text quote _ => starName start.length [(⟨text, quote⟩, t.span)]
    | .quoted .single text => starName start.length [(⟨text, some '\''⟩, Span.unknown)]
    | _ => pure none
  match found with
  | some (parts, span) => return .starOf parts span
  | none =>
    set start
    return .expr (← g.anyExpr)

/-- A star or an expression, as an expression. -/
def argument (g : Grammar) : Read Expr := do
  match ← g.starOrExpr with
  | .star _ => return .star
  | .starOf parts _ => return .starOf (parts.map Prod.fst)
  | .expr e => return e

/-- The sign between the name of an argument and its value. -/
def namedSign : Read String := do
  let t ← next
  let isGeneric ← dialectIn [.generic]
  match t.token with
  | .symbol "=>" => return " => "
  | .symbol "=" => if isGeneric then return " = " else expected "argument operator" t
  | .symbol ":=" => if isGeneric then return " := " else expected "argument operator" t
  | _ => expected "argument operator" t

/-- An argument with its name. -/
def namedArgument (g : Grammar) : Read Piece := do
  let name ← ident
  let sign ← namedSign
  return ⟨name.spell ++ sign, ← g.argument, ""⟩

/-- An argument of a function, with a name or without. -/
def functionArgument (g : Grammar) : Read Piece := do
  match ← maybe g.namedArgument with
  | some p => return p
  | none => return piece (← g.argument)

/-- The arguments behind an opening parenthesis, and the closing one. -/
def plainArguments (g : Grammar) : Read (List Piece) := do
  if ← symbol ")" then return []
  let args ← commas g.functionArgument
  expectSymbol ")"
  return args

end Grammar

end QueryLint.Sql
