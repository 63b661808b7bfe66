import QueryLint.Sql.Grammar.Query

/-!
# Statements that change rows

Insertions, updates and removals. An insertion and an update may also stand in the place of the body
of a query.
-/

namespace QueryLint.Sql.Grammar

open Read

/-- What is done about rows that are there already, behind the word of the statement. -/
def conflictClause : Read String := do
  if !(← keyword "OR") then return ""
  match ← oneOf ["REPLACE", "ROLLBACK", "ABORT", "FAIL", "IGNORE"] with
  | some k => return "OR " ++ k ++ " "
  | none => expectedNext "one of REPLACE, ROLLBACK, ABORT, FAIL or IGNORE"

/-- Pieces with a comma between them and text before the first. -/
def listed (opening : String) : List Piece → List Piece
  | [] => []
  | first :: rest =>
    ⟨opening ++ first.before, first.expr, first.after⟩
      :: rest.map fun p => ⟨", " ++ p.before, p.expr, p.after⟩

/-- The columns behind `RETURNING`, if any. -/
def returning (g : Grammar) : Read (List SelectItem) :=
  afterKeywords ["RETURNING"] (commas g.selectItem)

/-- The rows whose presence is a conflict. -/
def conflictTarget : Read String := do
  if ← keywords ["ON", "CONSTRAINT"] then
    return " ON CONSTRAINT " ++ ObjectName.spell (← objectName)
  else if ← peekSymbol "(" then
    return "(" ++ commaSeparated ((← columnList).map Ident.spell) ++ ")"
  else return ""

/-- What an insertion does about rows that are there already. -/
def onConflict (g : Grammar) (before : String) : Read Clause := do
  if !(← keyword "ON") then return .plain before
  if ← keyword "CONFLICT" then
    let target ← conflictTarget
    expectKeyword "DO"
    let head := before ++ " ON CONFLICT" ++ target ++ " DO "
    if ← keyword "NOTHING" then return .plain (head ++ "NOTHING")
    expectKeywords ["UPDATE", "SET"]
    let assignments ← commas g.assignment
    let filter := match ← g.whereClause with
      | none => []
      | some e => [⟨" WHERE ", e, ""⟩]
    return ⟨listed (head ++ "UPDATE SET ") assignments ++ filter, ""⟩
  else
    expectKeywords ["DUPLICATE", "KEY", "UPDATE"]
    let assignments ← commas g.assignment
    return ⟨listed (before ++ " ON DUPLICATE KEY UPDATE ") assignments, ""⟩

/-- The name under which the inserted rows are known, in the dialects that have one. -/
def rowAlias : Read String := do
  if !(← dialectIn [.mysql, .generic]) then return ""
  if !(← keyword "AS") then return ""
  let name ← objectName
  let columns ← optionalColumnList false
  return " AS " ++ ObjectName.spell name
    ++ (if columns.isEmpty then ""
      else " (" ++ commaSeparated (columns.map Ident.spell) ++ ")")

/-- The rows that are inserted: text, a query, or assignments. -/
def insertedRows (g : Grammar) : Read (String × Option Query × List Piece) := do
  if ← keywords ["DEFAULT", "VALUES"] then return ("DEFAULT VALUES", none, [])
  let isQuery := isSymbol "(" (← peek).token
    && (isKeyword "SELECT" (← peekAt 1) || isKeyword "WITH" (← peekAt 1))
  let columns ←
    if isQuery then pure []
    else do optionalColumnList (← dialectIn [.mysql])
  let head :=
    if columns.isEmpty then "" else "(" ++ commaSeparated (columns.map Ident.spell) ++ ") "
  let mayAssign ← dialectIn [.mysql, .generic]
  let assigns ← if mayAssign then keyword "SET" else pure false
  if assigns then return (head, none, ← commas g.assignment)
  else return (head, some (← g.query), [])

/-- An insertion behind its first word, which is given. -/
def insertionOf (g : Grammar) (word : String) : Read Insertion := do
  let conflict ← conflictClause
  let isMysqlOrGeneric ← dialectIn [.mysql, .generic]
  let priority ←
    if isMysqlOrGeneric then oneOf ["LOW_PRIORITY", "DELAYED", "HIGH_PRIORITY"] else pure none
  let ignore ← if isMysqlOrGeneric then keyword "IGNORE" else pure false
  let overwrite ← keyword "OVERWRITE"
  let into ← keyword "INTO"
  let table ← keyword "TABLE"
  let name ← objectName
  let isPostgres ← dialectIn [.postgres]
  let label ← if isPostgres then afterKeyword "AS" ident else pure none
  let target := ObjectName.spell name ++ (match label with
    | none => " "
    | some a => " AS " ++ a.spell ++ " ")
  let head :=
    if conflict.isEmpty then
      word ++ (match priority with
        | none => ""
        | some k => " " ++ k)
        ++ (if ignore then " IGNORE" else "") ++ (if overwrite then " OVERWRITE" else "")
        ++ (if into then " INTO" else "") ++ (if table then " TABLE" else "") ++ " " ++ target
    else "INSERT " ++ conflict ++ "INTO " ++ target
  let (columns, source, assignments) ← g.insertedRows
  let known ← rowAlias
  let conflict ← g.onConflict known
  return ⟨.plain (head ++ columns), source, assignments, conflict, ← g.returning⟩

/-- An insertion behind the word `INSERT`. -/
def insertion (g : Grammar) : Read Insertion :=
  g.insertionOf "INSERT"

/-- A change of rows behind the word `UPDATE`. One dialect reads the tables behind `FROM` only as
the word itself. -/
def change (g : Grammar) : Read Update := do
  let conflict ← conflictClause
  let target ← g.relation
  expectKeyword "SET"
  let assignments ← commas g.assignment
  let froms ←
    if ← keyword "FROM" then
      if ← dialectIn [.mysql] then pure [] else pure [← g.relation]
    else pure []
  let filter ← g.whereClause
  return ⟨"UPDATE " ++ conflict, target, assignments, froms, filter, ← g.returning⟩

/-- A removal of rows behind the word `DELETE`. -/
def removal (g : Grammar) : Read Delete := do
  let (tables, hasFrom) ←
    if ← keyword "FROM" then pure ([], true)
    else if ← dialectIn [.generic] then pure ([], false)
    else
      let tables ← commas objectName
      expectKeyword "FROM"
      pure (tables, true)
  let froms ← commas g.relation
  let usings ← afterKeywords ["USING"] (commas g.relation)
  let filter ← g.whereClause
  let items ← g.returning
  let order ← g.orderBy
  let limit ← if ← keyword "LIMIT" then g.limit else pure none
  return ⟨tables, hasFrom, froms, usings, filter, items, order, limit⟩

end QueryLint.Sql.Grammar
