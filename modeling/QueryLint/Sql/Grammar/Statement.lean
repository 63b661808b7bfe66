import QueryLint.Sql.Grammar.Change
import QueryLint.Sql.Grammar.Definition

/-!
# Statements

The first word says which statement comes. Queries may also begin with an opening parenthesis.
-/

namespace QueryLint.Sql.Grammar

open Read

/-- The modes of a transaction. -/
def transactionModes : Nat → Bool → Read (List String)
  | 0, _ => return []
  | fuel + 1, required => do
    match ← mode? with
    | some mode =>
      let more ← symbol ","
      return mode :: (← transactionModes fuel more)
    | none => if required then expectedNext "transaction mode" else return []
where
  /-- A mode, if one comes next. -/
  mode? : Read (Option String) := do
    if ← keywords ["ISOLATION", "LEVEL"] then
      if ← keywords ["READ", "UNCOMMITTED"] then return some "ISOLATION LEVEL READ UNCOMMITTED"
      else if ← keywords ["READ", "COMMITTED"] then return some "ISOLATION LEVEL READ COMMITTED"
      else if ← keywords ["REPEATABLE", "READ"] then return some "ISOLATION LEVEL REPEATABLE READ"
      else if ← keyword "SERIALIZABLE" then return some "ISOLATION LEVEL SERIALIZABLE"
      else expectedNext "isolation level"
    else if ← keywords ["READ", "ONLY"] then return some "READ ONLY"
    else if ← keywords ["READ", "WRITE"] then return some "READ WRITE"
    else return none

/-- The beginning of a transaction, its first words being given. -/
def transaction (words : String) : Read Statement := do
  let modes ← transactionModes (← get).length false
  return .words (.plain (words ++ (if modes.isEmpty then "" else " " ++ commaSeparated modes)))

/-- What is behind the word `BEGIN`. -/
def beginning : Read Statement := do
  let hasKinds ← dialectIn [.sqlite, .generic]
  let kind ← if hasKinds then oneOf ["DEFERRED", "IMMEDIATE", "EXCLUSIVE"] else pure none
  let word ← oneOf ["TRANSACTION", "WORK"]
  transaction (String.intercalate " " ("BEGIN" :: kind.toList ++ word.toList))

/-- Whether another transaction follows the one that ends. -/
def chained : Read Bool := do
  let _ ← oneOf ["TRANSACTION", "WORK"]
  if ← keyword "AND" then
    let not ← keyword "NO"
    expectKeyword "CHAIN"
    return !not
  else return false

/-- What is behind the word `ROLLBACK`. -/
def rollback : Read Statement := do
  let chain ← chained
  let point ←
    if ← keyword "TO" then
      let _ ← keyword "SAVEPOINT"
      pure (" TO SAVEPOINT " ++ (← ident).spell)
    else pure ""
  return .words (.plain ("ROLLBACK" ++ (if chain then " AND CHAIN" else "") ++ point))

/-- An option of an explanation. -/
def explainOption (g : Grammar) : Read Clause := do
  let name ← ident
  if (← peekSymbol ",") || (← peekSymbol ")") then return .plain name.spell
  else return ⟨[⟨name.spell ++ " ", ← g.anyExpr, ""⟩], ""⟩

/-- What an explanation is asked to tell. -/
def explainOptions (g : Grammar) (word : String) : Read Clause := do
  let hasOptions ← dialectIn [.postgres, .generic]
  let opens ← if word == "EXPLAIN" && hasOptions then peekSymbol "(" else pure false
  if opens then
    let options := Clause.listed (← parenthesized (commas g.explainOption))
    return (options.append (.plain ") ")).behind "("
  else if ← keywords ["QUERY", "PLAN"] then return .plain "QUERY PLAN "
  else
    let analyze ← if ← keyword "ANALYZE" then pure "ANALYZE " else pure ""
    let verbose ← if ← keyword "VERBOSE" then pure "VERBOSE " else pure ""
    let format ←
      if ← keyword "FORMAT" then
        match ← oneOf ["TEXT", "GRAPHVIZ", "JSON"] with
        | some k => pure ("FORMAT " ++ k ++ " ")
        | none => expectedNext "fileformat"
      else pure ""
    return .plain (analyze ++ verbose ++ format)

/-- Whether a statement is an explanation. -/
def isExplanation : Statement → Bool
  | .explain .. => true
  | .words clause =>
    clause.pieces.isEmpty
      && ["EXPLAIN ", "DESCRIBE ", "DESC "].any fun word => clause.ending.startsWith word
  | _ => false

/-- What is behind a word that asks for an explanation: a statement, or else the name of a table.
Explanations are not explained. -/
def explanation (g : Grammar) (word : String) : Read Statement := do
  let options ← g.explainOptions word
  match ← maybe g.statement with
  | some inner =>
    if isExplanation inner then throw (.message "Explain must be root of the plan")
    return .explain (options.behind (word ++ " ")) inner
  | none => return .words (.plain (word ++ " " ++ ObjectName.spell (← objectName)))

/-- A statement behind its first word. -/
def statementAfter (g : Grammar) (k : String) (first : Located) : Read Statement :=
  match k with
  | "INSERT" => .insert <$> g.insertion
  | "REPLACE" => do
    if ← dialectIn [.mysql, .generic] then .insert <$> g.insertionOf "REPLACE"
    else failAt "Unsupported statement REPLACE" (← peek).span.start
  | "UPDATE" => .update <$> g.change
  | "DELETE" => .delete <$> g.removal
  | "CREATE" => g.creation
  | "DROP" => drop
  | "ALTER" => g.alteration
  | "BEGIN" => beginning
  | "START" => do
    expectKeyword "TRANSACTION"
    transaction "START TRANSACTION"
  | "COMMIT" | "END" => .commit <$> chained
  | "ROLLBACK" => rollback
  | "EXPLAIN" | "DESCRIBE" | "DESC" => g.explanation k
  | _ => expected "an SQL statement" first

/-- A statement. -/
def statementOf (g : Grammar) : Read Statement :=
  deeper do
    let isQuery ← match (← peek).token with
      | .word _ none k => pure (["SELECT", "WITH", "VALUES"].contains k)
      | t => pure (isSymbol "(" t)
    if isQuery then return .query (← g.query)
    let first ← next
    match first.token with
    | .word _ none k => g.statementAfter k first
    | _ => expected "an SQL statement" first

end QueryLint.Sql.Grammar
