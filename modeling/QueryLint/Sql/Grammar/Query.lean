import QueryLint.Sql.Grammar.Table

/-!
# Queries

A query is a body with named queries before it and an order and limits behind it. A body is a
selection, rows of values, a query between parentheses, or two bodies with a set operator between
them; the operators are read from left to right, and intersection binds more strongly.
-/

namespace QueryLint.Sql.Grammar

open Read

/-- The span from the first of some tokens to the last one that was taken. -/
def spanSince (start : List Located) : Read Span := do
  let taken := start.take (start.length - (← get).length)
  match taken with
  | [] => return Span.unknown
  | first :: _ => return first.span.through (taken.getLast?.getD first).span

/-- The names behind a word for some columns, with the span of the last one. -/
def listedColumns : Read (Clause × Span) := do
  if ← symbol "(" then
    let names ← commas spannedIdent
    expectSymbol ")"
    return (.plain ("(" ++ commaSeparated (names.map fun n => n.1.spell) ++ ")"), lastSpan names)
  else
    let (name, span) ← spannedIdent
    return (.plain name.spell, span)
where
  /-- The span of the last name that has one. -/
  lastSpan (names : List (Ident × Span)) : Span :=
    ((names.filter fun n => n.2.start.line != 0).getLast?.map Prod.snd).getD Span.unknown

/-- A column under another name. -/
def renamedColumn : Read (Clause × Span) := do
  let (name, _) ← spannedIdent
  let _ ← keyword "AS"
  let (label, span) ← spannedIdent
  return (.plain (name.spell ++ " AS " ++ label.spell), span)

/-- An expression in the place of a column. -/
def replacedColumn (g : Grammar) : Read (Clause × Span) := do
  let e ← g.anyExpr
  let word ← if ← keyword "AS" then pure " AS " else pure " "
  let (name, span) ← spannedIdent
  return (⟨[piece e], word ++ name.spell⟩, span)

/-- One of the options of a star: its word and what follows. -/
def starOption (word : String) (item : Read (Clause × Span)) : Read (List (Clause × Span)) := do
  if ← keyword word then
    let (text, span) ← item
    return [(text.behind (" " ++ word ++ " "), span)]
  else return []

/-- The pattern that the names of columns have to match. -/
def starPattern : Read (Clause × Span) := do
  let t ← next
  match t.token with
  | .quoted .single text => return (.plain (quoteWith '\'' text), Span.unknown)
  | _ => expected "ilike pattern" t

/-- Several items of an option between parentheses. -/
def parenthesizedItems (item : Read (Clause × Span)) : Read (Clause × Span) := do
  let items ← parenthesized (commas item)
  return (((Clause.listed (items.map Prod.fst)).append (.plain ")")).behind "(",
    (items.getLast?.map Prod.snd).getD Span.unknown)

/-- The options behind a star, and the span of the last name in them. -/
def starOptions (g : Grammar) : Read (Clause × Span) := do
  if !(← dialectIn [.generic]) then return (.plain "", Span.unknown)
  let like ← starOption "ILIKE" starPattern
  let exclude ← if like.isEmpty then starOption "EXCLUDE" listedColumns else pure []
  let except ← starOption "EXCEPT" do
    if ← peekSymbol "(" then listedColumns
    else
      let (name, span) ← spannedIdent
      return (.plain ("(" ++ name.spell ++ ")"), span)
  let replace ← starOption "REPLACE" do
    if ← peekSymbol "(" then parenthesizedItems g.replacedColumn
    else expected "( after REPLACE but" (← next)
  let rename ← starOption "RENAME" do
    if ← peekSymbol "(" then parenthesizedItems renamedColumn else renamedColumn
  let all := like ++ exclude ++ except ++ replace ++ rename
  let known := (all.map Prod.snd).filter fun span => span.start.line != 0
  return (Clause.concat (all.map Prod.fst), known.getLast?.getD Span.unknown)

/-- A span that goes on to the end of another one, where that is known. -/
def extended (span last : Span) : Span :=
  if last.start.line = 0 then span else span.through last

/-- A column of a selection. A bare `from` is no column. -/
def selectItem (g : Grammar) : Read SelectItem := do
  match ← g.starOrExpr with
  | .star span =>
    let (options, last) ← g.starOptions
    return .star (extended span last) options
  | .starOf parts span =>
    let (options, last) ← g.starOptions
    let first := ((parts.map Prod.snd).find? fun s => s.start.line != 0).getD span
    return .starOf (parts.map Prod.fst) (extended (first.through span) last) options
  | .expr e =>
    match e with
    | .name [⟨text, none⟩] =>
      if String.ofList (text.toList.flatMap Text.lowercaseChar) == "from" then
        failAt ("Expected an expression, found: " ++ text) (← peek).span.start
      else return .expr e (← alias? reservedForColumns)
    | e => return .expr e (← alias? reservedForColumns)

/-- Whether a selection drops equal rows, and by which expressions. -/
def distinct (g : Grammar) : Read (Bool × List Expr) := do
  let place := (← peek).span.start
  let all ← keyword "ALL"
  if !(← keyword "DISTINCT") then return (false, [])
  if all then failAt "Cannot specify both ALL and DISTINCT" place
  if ← keyword "ON" then
    return (true, ← parenthesized (commasUntil g.anyExpr ")"))
  else return (true, [])

/-- How many rows a selection gives at most. -/
def top (g : Grammar) : Read (List Piece) := do
  if !(← keyword "TOP") then return []
  let (before, e, after) ←
    if ← symbol "(" then
      let e ← g.anyExpr
      expectSymbol ")"
      pure (" TOP (", e, ")")
    else pure (" TOP ", Expr.literal (.number (← wholeNumber) false), "")
  let percent ← if ← keyword "PERCENT" then pure " PERCENT" else pure ""
  let ties ← if ← keywords ["WITH", "TIES"] then pure " WITH TIES" else pure ""
  return [⟨before, e, after ++ percent ++ ties⟩]

/-- Where the rows of a selection go. -/
def into : Read String := do
  if !(← keyword "INTO") then return ""
  let temporary ← match ← oneOf ["TEMP", "TEMPORARY"] with
    | some _ => pure " TEMPORARY"
    | none => pure ""
  let unlogged ← if ← keyword "UNLOGGED" then pure " UNLOGGED" else pure ""
  let table ← if ← keyword "TABLE" then pure " TABLE" else pure ""
  return " INTO" ++ temporary ++ unlogged ++ table ++ " " ++ ObjectName.spell (← objectName)

/-- A group of expressions by which rows are grouped together. -/
def groupTuple (g : Grammar) (single : Bool) : Read Expr := do
  if ← symbol "(" then
    let items ← commasUntil g.anyExpr ")"
    expectSymbol ")"
    match single, items with
    | true, [e] => return e
    | _, _ => return .tuple items
  else if single then g.anyExpr
  else expectedNext "("

/-- An expression by which rows are grouped. -/
def groupItem (g : Grammar) : Read Expr := do
  if !(← dialectIn [.postgres, .generic]) then g.anyExpr
  else if ← keywords ["GROUPING", "SETS"] then
    let sets ← parenthesized (commas (g.groupTuple false))
    return enclosed "GROUPING SETS (" ")" (sets.map piece)
  else if ← keyword "CUBE" then
    let sets ← parenthesized (commas (g.groupTuple true))
    return enclosed "CUBE (" ")" (sets.map piece)
  else if ← keyword "ROLLUP" then
    let sets ← parenthesized (commas (g.groupTuple true))
    return enclosed "ROLLUP (" ")" (sets.map piece)
  else if (← peekSymbol "(") && isSymbol ")" (← peekAt 1) then
    let _ ← next
    let _ ← next
    return .tuple []
  else g.anyExpr

/-- The modifiers behind the expressions by which rows are grouped. -/
def groupModifiers : Nat → Read String
  | 0 => return ""
  | fuel + 1 => do
    if ← keyword "WITH" then
      match ← oneOf ["ROLLUP", "CUBE", "TOTALS"] with
      | some k => return " WITH " ++ k ++ (← groupModifiers fuel)
      | none => expectedNext "one of ROLLUP or CUBE or TOTALS"
    else return ""

/-- How rows are grouped: the expressions, and the text behind them. -/
def groupBy (g : Grammar) : Read (List Expr × String) := do
  if !(← keywords ["GROUP", "BY"]) then return ([], "")
  let all ← keyword "ALL"
  let items ← if all then pure [] else commas g.groupItem
  let modifiers ←
    if ← dialectIn [.generic] then groupModifiers (← get).length else pure ""
  return (items, (if all then " GROUP BY ALL" else "") ++ modifiers)

/-- A selection, its first word being next. -/
def selection (g : Grammar) : Read Select := do
  let start ← get
  expectKeyword "SELECT"
  let (distinct, distinctOn) ← g.distinct
  let top ← g.top
  let items ← commas g.selectItem
  let into ← into
  let froms ← afterKeywords ["FROM"] (commas g.relation)
  let filter ← g.whereClause
  let (group, groupEnding) ← g.groupBy
  let having ← afterKeyword "HAVING" g.anyExpr
  let span ← spanSince start
  return ⟨span, distinct, distinctOn, top, items, into, froms, .plain "", filter, group,
    .plain groupEnding, having, .plain ""⟩

/-- A row of values. -/
def valueRow (g : Grammar) (mayBeEmpty : Bool) : Read (Bool × Expr) := do
  let withRow ← keyword "ROW"
  expectSymbol "("
  let items ← if mayBeEmpty then commasUntil g.anyExpr ")" else commas g.anyExpr
  expectSymbol ")"
  return (withRow, .tuple items)

/-- Rows of values, the word before them being passed. -/
def valueRows (g : Grammar) (mayBeEmpty : Bool) : Read Body := do
  let rows ← commas (g.valueRow mayBeEmpty)
  return .values (rows.any Prod.fst) (rows.map Prod.snd)

/-- A table as a body: three tokens are taken, whatever they are. -/
def tableBody : Read Body := do
  let first ← next
  let second ← next
  let third ← next
  let word (what : String) (t : Located) : Read String :=
    match t.token with
    | .word text _ _ => pure text
    | _ => expected what t
  if isSymbol "." second.token then
    let schema ← word "Schema name" first
    return .table (schema ++ "." ++ (← word "Table name" third))
  else return .table (← word "Table name" first)

/-- The set operator that comes next, with its strength. -/
def setOperator? : Read (Option (SetOperator × Nat)) := do
  if ← peekKeyword "UNION" then return some (.union, 10)
  else if ← peekKeyword "EXCEPT" then return some (.except, 10)
  else if ← peekKeyword "INTERSECT" then return some (.intersect, 20)
  else return none

/-- What is said of equal rows behind a set operator. -/
def setQuantifier : Read String := do
  if ← keywords ["DISTINCT", "BY", "NAME"] then return " DISTINCT BY NAME"
  else if ← keywords ["BY", "NAME"] then return " BY NAME"
  else if ← keywords ["ALL", "BY", "NAME"] then return " ALL BY NAME"
  else if ← keyword "ALL" then return " ALL"
  else if ← keyword "DISTINCT" then return " DISTINCT"
  else return ""

/-- Set operators as long as they bind more strongly than the strength given. -/
def setOperations (g : Grammar) (strength : Nat) : Nat → Body → Read Body
  | 0, left => return left
  | fuel + 1, left => do
    match ← setOperator? with
    | none => return left
    | some (op, found) =>
      if found ≤ strength then return left
      else
        let _ ← next
        let quantifier ← setQuantifier
        let right ← g.body found
        g.setOperations strength fuel (.setOperation left op quantifier right)

/-- The body of a query. -/
def bodyOf (g : Grammar) (strength : Nat) : Read Body := do
  let first ←
    if ← peekKeyword "SELECT" then pure (.select (← g.selection))
    else if ← symbol "(" then
      let q ← g.query
      expectSymbol ")"
      pure (.query q)
    else if ← keyword "VALUES" then do g.valueRows (← dialectIn [.mysql])
    else if ← keyword "TABLE" then tableBody
    else expectedNext "SELECT, VALUES, or a subquery in the query body"
  g.setOperations strength (← get).length first

/-- Whether a named query is kept, in the dialect that lets one say so. -/
def materialized : Read String := do
  if !(← dialectIn [.postgres]) then return ""
  if ← keyword "MATERIALIZED" then return "MATERIALIZED "
  else if ← keywords ["NOT", "MATERIALIZED"] then return "NOT MATERIALIZED "
  else return ""

/-- A query with a name. -/
def cte (g : Grammar) : Read Cte := do
  let name ← ident
  let columns ←
    if ← keyword "AS" then pure []
    else
      let columns ← aliasColumns
      expectKeyword "AS"
      pure columns
  let kept ← materialized
  let q ← parenthesized g.query
  return ⟨⟨name, columns⟩, kept, q, ← afterKeyword "FROM" ident⟩

/-- The limit and the offset behind a query, in either order, with the text behind the offset. -/
def limits (g : Grammar) : Nat → Option Expr → Option (Expr × String) →
    Read (Option Expr × Option (Expr × String))
  | 0, limit, offset => return (limit, offset)
  | fuel + 1, limit, offset => do
    let limit ←
      if limit.isNone then
        if ← keyword "LIMIT" then g.limit else pure none
      else pure limit
    let offset ←
      if offset.isNone then
        if ← keyword "OFFSET" then
          let e ← g.anyExpr
          match ← oneOf ["ROW", "ROWS"] with
          | some k => pure (some (e, " " ++ k))
          | none => pure (some (e, ""))
        else pure none
      else pure offset
    match limit, offset with
    | some first, none =>
      if ← dialectIn [.mysql, .sqlite, .generic] then
        if ← symbol "," then
          g.limits fuel (some (← g.anyExpr)) (some (first, ""))
        else g.limits fuel limit offset
      else g.limits fuel limit offset
    | _, _ => g.limits fuel limit offset

/-- How many rows are fetched. -/
def fetch : Read String := do
  if !(← keyword "FETCH") then return ""
  let _ ← oneOf ["FIRST", "NEXT"]
  let quantity ← match ← oneOf ["ROW", "ROWS"] with
    | some _ => pure ""
    | none =>
      let n ← literalValue
      let percent ← if ← keyword "PERCENT" then pure " PERCENT" else pure ""
      let _ ← oneOf ["ROW", "ROWS"]
      pure (" " ++ n.spell ++ percent)
  if ← keyword "ONLY" then return " FETCH FIRST" ++ quantity ++ " ROWS ONLY"
  expectKeywords ["WITH", "TIES"]
  return " FETCH FIRST" ++ quantity ++ " ROWS WITH TIES"

/-- The locks that a query takes. -/
def locks : Nat → Read String
  | 0 => return ""
  | fuel + 1 => do
    if !(← keyword "FOR") then return ""
    let kind ← match ← oneOf ["UPDATE", "SHARE"] with
      | some k => pure (" FOR " ++ k)
      | none => expectedNext "one of UPDATE or SHARE"
    let tables ← match ← afterKeyword "OF" objectName with
      | some name => pure (" OF " ++ ObjectName.spell name)
      | none => pure ""
    let wait ←
      if ← keyword "NOWAIT" then pure " NOWAIT"
      else if ← keywords ["SKIP", "LOCKED"] then pure " SKIP LOCKED"
      else pure ""
    return kind ++ tables ++ wait ++ (← locks fuel)

/-- A query; `insertion` and `change` read what may stand in the place of its body. -/
def queryOf (g : Grammar) (insertion : Read Insertion) (change : Read Update) : Read Query :=
  deeper do
    let hasWith ← keyword "WITH"
    let recursive ← if hasWith then keyword "RECURSIVE" else pure false
    let ctes ← if hasWith then commas g.cte else pure []
    if ← keyword "INSERT" then
      return ⟨recursive, ctes, .insert (← insertion), [], none, none, "", .plain ""⟩
    if ← keyword "UPDATE" then
      return ⟨recursive, ctes, .update (← change), [], none, none, "", .plain ""⟩
    let body ← g.body 0
    let order ← g.orderBy
    let (limit, offset) ← g.limits 2 none none
    let fetched ← fetch
    let locked ← locks (← get).length
    let rows := (offset.map Prod.snd).getD ""
    return ⟨recursive, ctes, body, order, limit, offset.map Prod.fst, rows,
      .plain (fetched ++ locked)⟩

end QueryLint.Sql.Grammar
