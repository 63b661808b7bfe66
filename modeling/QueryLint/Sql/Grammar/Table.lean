import QueryLint.Sql.Grammar.Expr

/-!
# Tables

What may stand in a list of tables: a name, a function, a query between parentheses, joined tables
between parentheses, and the operators that turn rows into columns or match them with a pattern. An
opening parenthesis is first taken for that of a query; only if that fails for that of a join.
-/

namespace QueryLint.Sql.Grammar

open Read

/-- A query between parentheses, the opening one being passed. -/
def derivedFactor (g : Grammar) (lateral : Bool) : Read Factor := do
  let q ← g.query
  expectSymbol ")"
  return .derived lateral q (← tableAlias?)

/-- A function with a name for its result. -/
def aliasedCall (g : Grammar) : Read Piece := do
  match (← next).token with
  | .word text _ _ =>
    let c ← g.call [⟨text, none⟩]
    match ← afterKeyword "AS" ident with
    | none => return piece (.call c)
    | some name => return ⟨"", .call c, " AS " ++ name.spell⟩
  | _ => expectedNext "a function identifier"

/-- The values that a pivot turns into columns. -/
def pivotSource (g : Grammar) : Read PivotSource := do
  if ← keyword "ANY" then return .any (← g.orderBy)
  else if ← peekQuery then return .subquery (← g.query)
  else return .list (← commas g.aliased)

/-- What is behind `PIVOT`. -/
def pivotFactor (g : Grammar) (operand : Factor) : Read Factor := do
  expectSymbol "("
  let aggregates ← commas g.aliasedCall
  expectKeyword "FOR"
  let column ← objectName
  expectKeyword "IN"
  let source ← parenthesized g.pivotSource
  let ending ←
    if ← keywords ["DEFAULT", "ON", "NULL"] then do
      pure ⟨[⟨" DEFAULT ON NULL (", ← parenthesized g.anyExpr, ")"⟩], ""⟩
    else pure (Clause.plain "")
  expectSymbol ")"
  return .pivot operand aggregates column source ending (← tableAlias?)

/-- What is behind `UNPIVOT`. -/
def unpivotFactor (operand : Factor) : Read Factor := do
  expectSymbol "("
  let value ← ident
  expectKeyword "FOR"
  let name ← ident
  expectKeyword "IN"
  let columns ← columnList
  expectSymbol ")"
  return .unpivot operand value name columns (← tableAlias?)

/-- A table with the pivots behind it. -/
def pivoted (g : Grammar) : Nat → Factor → Read Factor
  | 0, operand => return operand
  | fuel + 1, operand => do
    if ← keyword "PIVOT" then g.pivoted fuel (← g.pivotFactor operand)
    else if ← keyword "UNPIVOT" then g.pivoted fuel (← unpivotFactor operand)
    else return operand

/-- How often a part of a pattern may repeat. -/
def repetition : Read String := do
  let t ← peek
  match t.token with
  | .symbol "*" =>
    let _ ← next
    return "*"
  | .symbol "+" =>
    let _ ← next
    return "+"
  | .placeholder "?" =>
    let _ ← next
    return "?"
  | .symbol "\x7b" =>
    let _ ← next
    let low ← match (← peek).token with
      | .number .. => wholeNumber
      | _ => pure ""
    let high ←
      if ← symbol "," then
        match (← peek).token with
        | .number .. => do pure ("," ++ (← wholeNumber))
        | _ => pure ","
      else pure ""
    expectSymbol "\x7d"
    return "\x7b" ++ low ++ high ++ "\x7d"
  | _ => return ""

/-- A pattern of rows. -/
def rowPattern : Nat → Read String
  | 0 => expectedNext "identifier"
  | fuel + 1 => do
    let first ← sequence fuel (← get).length
    if ← symbol "|" then return first ++ " | " ++ (← rowPattern fuel) else return first
where
  /-- Parts one after another. -/
  sequence (fuel : Nat) : Nat → Read String
    | 0 => return ""
    | n + 1 => do
      let one ← part fuel
      let one := one ++ (← repetition)
      if (← peekSymbol ")") || (← peekSymbol "|") || (← get).isEmpty then return one
      else return one ++ " " ++ (← sequence fuel n)
  /-- One part. -/
  part (fuel : Nat) : Read String := do
    if ← symbol "(" then
      let inner ← rowPattern fuel
      expectSymbol ")"
      return "( " ++ inner ++ " )"
    else if ← symbol "^" then return "^"
    else match (← peek).token with
      | .placeholder "$" =>
        let _ ← next
        return "$"
      | _ => do return (← ident).spell

/-- How many rows a match gives, and where the next one starts. -/
def matchRows : Read String := do
  let rows ←
    if ← keywords ["ONE", "ROW", "PER", "MATCH"] then pure "ONE ROW PER MATCH "
    else if ← keywords ["ALL", "ROWS", "PER", "MATCH"] then
      if ← keywords ["SHOW", "EMPTY", "MATCHES"] then
        pure "ALL ROWS PER MATCH SHOW EMPTY MATCHES "
      else if ← keywords ["OMIT", "EMPTY", "MATCHES"] then
        pure "ALL ROWS PER MATCH OMIT EMPTY MATCHES "
      else if ← keywords ["WITH", "UNMATCHED", "ROWS"] then
        pure "ALL ROWS PER MATCH WITH UNMATCHED ROWS "
      else pure "ALL ROWS PER MATCH "
    else pure ""
  if ← keywords ["AFTER", "MATCH", "SKIP"] then
    if ← keywords ["PAST", "LAST", "ROW"] then return rows ++ "AFTER MATCH SKIP PAST LAST ROW "
    else if ← keywords ["TO", "NEXT", "ROW"] then
      return rows ++ "AFTER MATCH SKIP TO NEXT ROW "
    else if ← keywords ["TO", "FIRST"] then
      return rows ++ "AFTER MATCH SKIP TO FIRST " ++ (← ident).spell ++ " "
    else if ← keywords ["TO", "LAST"] then
      return rows ++ "AFTER MATCH SKIP TO LAST " ++ (← ident).spell ++ " "
    else expected "after match skip option" (← next)
  else return rows

/-- A value computed for each match. -/
def measure (g : Grammar) : Read Piece := do
  let e ← g.anyExpr
  let _ ← keyword "AS"
  return ⟨"", e, " AS " ++ (← ident).spell⟩

/-- A condition with a name. -/
def definition (g : Grammar) : Read Piece := do
  let name ← ident
  expectKeyword "AS"
  return ⟨name.spell ++ " AS ", ← g.anyExpr, ""⟩

/-- What is behind `MATCH_RECOGNIZE`. -/
def matchFactor (g : Grammar) (operand : Factor) : Read Factor := do
  expectSymbol "("
  let partition ← afterKeywords ["PARTITION", "BY"] (commas g.anyExpr)
  let order ← g.orderBy
  let measures ← afterKeywords ["MEASURES"] (commas g.measure)
  let rows ← matchRows
  expectKeyword "PATTERN"
  let pattern ← parenthesized do rowPattern (← get).length
  expectKeyword "DEFINE"
  let definitions ← commas g.definition
  expectSymbol ")"
  let pattern := rows ++ "PATTERN (" ++ pattern ++ ")"
  return .matchRecognize operand partition order measures pattern definitions (← tableAlias?)

/-- What a column of a document is where it is missing or wrong. -/
def jsonFallback : Read String := do
  let value ←
    if ← keyword "NULL" then pure "NULL"
    else if ← keyword "ERROR" then pure "ERROR"
    else if ← keyword "DEFAULT" then do pure ("DEFAULT " ++ (← literalValue).spell)
    else return ""
  expectKeyword "ON"
  if ← keyword "EMPTY" then return " " ++ value ++ " ON EMPTY"
  expectKeyword "ERROR"
  return " " ++ value ++ " ON ERROR"

/-- A column of a document as a table. -/
def jsonColumn : Nat → Read String
  | 0 => expectedNext "identifier"
  | fuel + 1 => do
    if ← keyword "NESTED" then
      let _ ← keyword "PATH"
      let path ← literalValue
      expectKeyword "COLUMNS"
      let columns ← parenthesized (commas (jsonColumn fuel))
      return "NESTED PATH " ++ path.spell ++ " COLUMNS (" ++ commaSeparated columns ++ ")"
    let name ← ident
    if ← keyword "FOR" then
      expectKeyword "ORDINALITY"
      return name.spell ++ " FOR ORDINALITY"
    let type ← dataType
    let word ← if ← keyword "EXISTS" then pure " EXISTS" else pure ""
    expectKeyword "PATH"
    let path ← literalValue
    let first ← jsonFallback
    let second ← if first.isEmpty then pure "" else jsonFallback
    return name.spell ++ " " ++ type ++ word ++ " PATH " ++ path.spell ++ first ++ second

/-- What is behind `JSON_TABLE` and its parenthesis. -/
def jsonFactor (g : Grammar) : Read Factor := do
  let document ← g.anyExpr
  expectSymbol ","
  let path ← literalValue
  expectKeyword "COLUMNS"
  let columns ← parenthesized do commas (jsonColumn (← get).length)
  expectSymbol ")"
  return .jsonTable document path.spell (commaSeparated columns) (← tableAlias?)

/-- A column behind a document. -/
def openJsonColumn : Read String := do
  let name ← ident
  let type ← dataType
  let path ← match (← peek).token with
    | .quoted .single text =>
      let _ ← next
      pure (" " ++ quoteWith '\'' text)
    | _ => pure ""
  if ← keyword "AS" then
    expectKeyword "JSON"
    return name.spell ++ " " ++ type ++ path ++ " AS JSON"
  else return name.spell ++ " " ++ type ++ path

/-- What is behind `OPENJSON` and its parenthesis. -/
def openJsonFactor (g : Grammar) : Read Factor := do
  let document ← g.anyExpr
  let path ← if ← symbol "," then do pure (", " ++ (← literalValue).spell) else pure ""
  expectSymbol ")"
  let columns ←
    if ← keyword "WITH" then do
      pure (" WITH (" ++ commaSeparated (← parenthesized (commas openJsonColumn)) ++ ")")
    else pure ""
  return .openJson document path columns (← tableAlias?)

/-- What is behind `UNNEST`. -/
def unnestFactor (g : Grammar) : Read Factor := do
  let arrays ← parenthesized (commas g.anyExpr)
  let ordinality ← keywords ["WITH", "ORDINALITY"]
  let label ← tableAlias?
  if ← keywords ["WITH", "OFFSET"] then
    match ← alias? reservedForColumns with
    | some name => return .unnest arrays ordinality label (" WITH OFFSET AS " ++ name.spell)
    | none => return .unnest arrays ordinality label " WITH OFFSET"
  else return .unnest arrays ordinality label ""

/-- What is behind `LATERAL`. -/
def lateralFactor (g : Grammar) : Read Factor := do
  if ← symbol "(" then g.derivedFactor true
  else
    let name ← objectName
    expectSymbol "("
    let args ← g.plainArguments
    return .function true name args (← tableAlias?)

/-- The alias of a table factor. -/
def aliasOf : Factor → Option TableAlias
  | .table _ _ _ _ a _ => a
  | .derived _ _ a => a
  | .function _ _ _ a => a
  | .tableOf _ a => a
  | .unnest _ _ a _ => a
  | .jsonTable _ _ _ a => a
  | .openJson _ _ _ a => a
  | .nested _ a => a
  | .pivot _ _ _ _ _ a => a
  | .unpivot _ _ _ _ a => a
  | .matchRecognize _ _ _ _ _ _ a => a

/-- A table factor under another alias. -/
def withAlias (a : TableAlias) : Factor → Factor
  | .table name called args ordinality _ ending => .table name called args ordinality (some a) ending
  | .derived lateral q _ => .derived lateral q (some a)
  | .function lateral name args _ => .function lateral name args (some a)
  | .tableOf e _ => .tableOf e (some a)
  | .unnest arrays ordinality _ ending => .unnest arrays ordinality (some a) ending
  | .jsonTable document path columns _ => .jsonTable document path columns (some a)
  | .openJson document path columns _ => .openJson document path columns (some a)
  | .nested relation _ => .nested relation (some a)
  | .pivot operand aggregates column source ending _ =>
    .pivot operand aggregates column source ending (some a)
  | .unpivot operand value name columns _ => .unpivot operand value name columns (some a)
  | .matchRecognize operand partition order measures pattern definitions _ =>
    .matchRecognize operand partition order measures pattern definitions (some a)

/-- Joined tables between parentheses, the opening one being passed. Only one dialect takes a
single table there. -/
def nestedFactor (g : Grammar) : Read Factor := do
  let relation ← g.relation
  let isJoin := !relation.joins.isEmpty || (match relation.factor with
    | .nested .. => true
    | _ => false)
  if isJoin then
    expectSymbol ")"
    return .nested relation (← tableAlias?)
  if ← dialectIn [.generic] then
    expectSymbol ")"
    match ← tableAlias? with
    | none => return relation.factor
    | some outer =>
      match aliasOf relation.factor with
      | some inner => throw (.message ("duplicate alias " ++ inner.spell))
      | none => return withAlias outer relation.factor
  else expectedNext "joined table"

/-- Rows of values between no parentheses. -/
def valuesFactor (rows : Read Body) : Read Factor := do
  let body ← rows
  return .derived false ⟨false, [], body, [], none, none, "", .plain ""⟩ (← tableAlias?)

/-- A table by name, with what may stand behind it. -/
def namedFactor (g : Grammar) : Read Factor := do
  let name ← objectName
  let called ← symbol "("
  let args ← if called then g.plainArguments else pure []
  let ordinality ← keywords ["WITH", "ORDINALITY"]
  let label ← tableAlias?
  let hints ←
    if (← peekKeyword "WITH") && isSymbol "(" (← peekAt 1) then do
      let _ ← next
      let hints ← parenthesized (commas g.anyExpr)
      pure ((Clause.mk (pieces ", " "" hints) ")").behind " WITH (")
    else pure (Clause.plain "")
  let table ← g.pivoted (← get).length (.table name called args ordinality label hints)
  if ← dialectIn [.generic] then
    if ← keyword "MATCH_RECOGNIZE" then g.matchFactor table else return table
  else return table

/-- Whether a keyword with an opening parenthesis comes next; both are then taken. -/
def opens (k : String) : Read Bool := do
  if (← peekKeyword k) && isSymbol "(" (← peekAt 1) then
    let _ ← next
    let _ ← next
    return true
  else return false

/-- A table factor; `rows` reads rows of values. -/
def factorOf (g : Grammar) (rows : Read Body) : Read Factor := do
  if ← keyword "LATERAL" then g.lateralFactor
  else if ← keyword "TABLE" then
    let e ← parenthesized g.anyExpr
    return .tableOf e (← tableAlias?)
  else if ← symbol "(" then
    match ← maybe (g.derivedFactor false) with
    | some table => g.pivoted (← get).length table
    | none => g.nestedFactor
  else
    let dialect ← Read.dialect
    if dialect == .generic && (← peekKeyword "VALUES") && isSymbol "(" (← peekAt 1) then
      let _ ← next
      valuesFactor rows
    else if (dialect == .generic || dialect == .postgres) && (← peekKeyword "UNNEST") then
      let _ ← next
      g.unnestFactor
    else if ← opens "JSON_TABLE" then g.jsonFactor
    else if ← opens "OPENJSON" then g.openJsonFactor
    else g.namedFactor

/-- The words of a join behind its first word, and the word for messages. -/
def sideJoin (side : String) : Read String := do
  let _ ← next
  match ← oneOf ["OUTER", "SEMI", "ANTI", "JOIN"] with
  | some "OUTER" =>
    expectKeyword "JOIN"
    return side ++ " JOIN"
  | some "JOIN" => return side ++ " JOIN"
  | some k =>
    expectKeyword "JOIN"
    return side ++ " " ++ k ++ " JOIN"
  | none => throw (.message ("expected OUTER, SEMI, ANTI or JOIN after " ++ side))

/-- The words of a join with a condition, if one comes next. -/
def joinWords? (natural : Bool) : Read (Option String) := do
  let k := match (← peek).token with
    | .word _ none k => k
    | _ => ""
  if k == "INNER" || k == "JOIN" then
    let _ ← keyword "INNER"
    expectKeyword "JOIN"
    return some "JOIN"
  else if k == "LEFT" || k == "RIGHT" then some <$> sideJoin k
  else if k == "ANTI" || k == "SEMI" then
    let _ ← next
    expectKeyword "JOIN"
    return some (k ++ " JOIN")
  else if k == "FULL" then
    let _ ← next
    let _ ← keyword "OUTER"
    expectKeyword "JOIN"
    return some "FULL JOIN"
  else if k == "OUTER" then expectedNext "LEFT, RIGHT, or FULL"
  else if natural then expectedNext "a join type after NATURAL"
  else return none

/-- A joined table factor, if one comes next. -/
def join? (g : Grammar) : Read (Option Join) := do
  let global ← if ← keyword "GLOBAL" then pure "GLOBAL " else pure ""
  if ← keyword "CROSS" then
    let words ←
      if ← keyword "JOIN" then pure "CROSS JOIN"
      else if ← keyword "APPLY" then pure "CROSS APPLY"
      else expectedNext "JOIN or APPLY after CROSS"
    return some ⟨global ++ words, ← g.factor, none, []⟩
  else if ← keyword "OUTER" then
    expectKeyword "APPLY"
    return some ⟨global ++ "OUTER APPLY", ← g.factor, none, []⟩
  else
    let natural ← keyword "NATURAL"
    match ← joinWords? natural with
    | none => return none
    | some words =>
      let table ← g.factor
      if natural then return some ⟨global ++ "NATURAL " ++ words, table, none, []⟩
      else if ← keyword "ON" then
        return some ⟨global ++ words, table, some (← g.anyExpr), []⟩
      else if ← keyword "USING" then return some ⟨global ++ words, table, none, ← columnList⟩
      else return some ⟨global ++ words, table, none, []⟩

/-- All joined table factors that come next. -/
def joins (g : Grammar) : Nat → Read (List Join)
  | 0 => return []
  | fuel + 1 => do
    match ← g.join? with
    | none => return []
    | some j => return j :: (← g.joins fuel)

/-- A table factor with all that is joined to it. -/
def relationOf (g : Grammar) : Read Relation := do
  let table ← g.factor
  return ⟨table, ← g.joins (← get).length⟩

end QueryLint.Sql.Grammar
