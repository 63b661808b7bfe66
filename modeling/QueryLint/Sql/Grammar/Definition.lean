import QueryLint.Sql.Grammar.Query

/-!
# Definitions

Statements that create, change and drop tables and views. A definition of a table is written with its
columns before its constraints, whatever their order was.
-/

namespace QueryLint.Sql

namespace Grammar

open Read

/-- What is done to rows that refer to rows that are changed or removed. -/
def referentialAction : Read String := do
  if ← keyword "RESTRICT" then return "RESTRICT"
  else if ← keyword "CASCADE" then return "CASCADE"
  else if ← keywords ["SET", "NULL"] then return "SET NULL"
  else if ← keywords ["NO", "ACTION"] then return "NO ACTION"
  else if ← keywords ["SET", "DEFAULT"] then return "SET DEFAULT"
  else expectedNext "one of RESTRICT, CASCADE, SET NULL, NO ACTION or SET DEFAULT"

/-- The actions on removal and change, in either order. -/
def referentialActions : Nat → Option String → Option String → Read String
  | 0, onDelete, onUpdate => return written onDelete onUpdate
  | fuel + 1, onDelete, onUpdate => do
    let deletes ← if onDelete.isNone then keywords ["ON", "DELETE"] else pure false
    if deletes then
      referentialActions fuel (some (← referentialAction)) onUpdate
    else
      let updates ← if onUpdate.isNone then keywords ["ON", "UPDATE"] else pure false
      if updates then referentialActions fuel onDelete (some (← referentialAction))
      else return written onDelete onUpdate
where
  /-- The actions as they are written. -/
  written (onDelete onUpdate : Option String) : String :=
    (match onDelete with
      | none => ""
      | some action => " ON DELETE " ++ action)
      ++ (match onUpdate with
        | none => ""
        | some action => " ON UPDATE " ++ action)

/-- When a constraint is checked, and whether it is. -/
def characteristics : Nat → Option String → Option String → Option String → Read String
  | 0, deferrable, initially, enforced => return written deferrable initially enforced
  | fuel + 1, deferrable, initially, enforced => do
    let ifUnset (known : Option String) (words : List String) : Read Bool :=
      if known.isNone then keywords words else pure false
    if ← ifUnset deferrable ["NOT", "DEFERRABLE"] then
      characteristics fuel (some " NOT DEFERRABLE") initially enforced
    else if ← ifUnset deferrable ["DEFERRABLE"] then
      characteristics fuel (some " DEFERRABLE") initially enforced
    else if ← ifUnset initially ["INITIALLY"] then
      if ← keyword "DEFERRED" then
        characteristics fuel deferrable (some " INITIALLY DEFERRED") enforced
      else if ← keyword "IMMEDIATE" then
        characteristics fuel deferrable (some " INITIALLY IMMEDIATE") enforced
      else expectedNext "one of DEFERRED or IMMEDIATE"
    else if ← ifUnset enforced ["ENFORCED"] then
      characteristics fuel deferrable initially (some " ENFORCED")
    else if ← ifUnset enforced ["NOT", "ENFORCED"] then
      characteristics fuel deferrable initially (some " NOT ENFORCED")
    else return written deferrable initially enforced
where
  /-- The characteristics as they are written. -/
  written (deferrable initially enforced : Option String) : String :=
    deferrable.getD "" ++ initially.getD "" ++ enforced.getD ""

/-- Names of columns between parentheses. -/
def columnNames : Read String := do
  return "(" ++ commaSeparated ((← columnList).map Ident.spell) ++ ")"

/-- What is behind `REFERENCES` in a column. -/
def reference : Read String := do
  let table ← objectName
  let columns ← optionalColumnList false
  let columns :=
    if columns.isEmpty then ""
    else " (" ++ commaSeparated (columns.map Ident.spell) ++ ")"
  let actions ← referentialActions 2 none none
  return ObjectName.spell table ++ columns ++ actions ++ (← characteristics 3 none none none)

/-- An option of a column that only some dialects have. A dialect that lacks it passes over its
words. -/
def dialectOption (words : List String) (dialects : List Dialect) : Read (Option Clause) := do
  if ← keywords words then
    if ← dialectIn dialects then
      return some (Clause.plain (String.intercalate " " words))
  return none

/-- The first of several options that is there. -/
def firstOption : List (Read (Option Clause)) → Read (Option Clause)
  | [] => return none
  | option :: rest => do
    match ← option with
    | some e => return some e
    | none => firstOption rest

/-- An expression between parentheses, behind some text. -/
def checked (g : Grammar) (before : String) : Read Clause := do
  return ⟨[⟨before ++ "(", ← parenthesized g.anyExpr, ")"⟩], ""⟩

/-- An option of a column, if one comes next. -/
def columnOption? (g : Grammar) : Read (Option Clause) := do
  let text (words : String) : Read (Option Clause) := pure (some (Clause.plain words))
  if ← keywords ["CHARACTER", "SET"] then
    text ("CHARACTER SET " ++ ObjectName.spell (← objectName))
  else if ← keywords ["NOT", "NULL"] then text "NOT NULL"
  else if ← keyword "COMMENT" then
    let t ← next
    match t.token with
    | .quoted .single comment => text ("COMMENT " ++ quoteWith '\'' comment)
    | _ => expected "string" t
  else if ← keyword "NULL" then text "NULL"
  else if ← keyword "DEFAULT" then return some ⟨[⟨"DEFAULT ", ← g.anyExpr, ""⟩], ""⟩
  else if ← keywords ["PRIMARY", "KEY"] then
    text ("PRIMARY KEY" ++ (← characteristics 3 none none none))
  else if ← keyword "UNIQUE" then text ("UNIQUE" ++ (← characteristics 3 none none none))
  else if ← keyword "REFERENCES" then text ("REFERENCES " ++ (← reference))
  else if ← keyword "CHECK" then return some (← g.checked "CHECK ")
  else
    firstOption
      [dialectOption ["AUTO_INCREMENT"] [.mysql, .generic],
        dialectOption ["AUTOINCREMENT"] [.sqlite, .generic],
        dialectOption ["ASC"] [.sqlite, .generic],
        dialectOption ["DESC"] [.sqlite, .generic],
        do
          match ← dialectOption ["ON", "UPDATE"] [.mysql, .generic] with
          | some _ => return some ⟨[⟨"ON UPDATE ", ← g.anyExpr, ""⟩], ""⟩
          | none => return none]

/-- The options of a column, each with a blank before it, and a collation among them. -/
def columnOptions (g : Grammar) : Nat → Option String → Read (List Clause × Option String)
  | 0, collation => return ([], collation)
  | fuel + 1, collation => do
    if ← keyword "CONSTRAINT" then
      let name ← ident
      match ← g.columnOption? with
      | none => expectedNext "constraint details after CONSTRAINT <name>"
      | some option =>
        let (rest, last) ← g.columnOptions fuel collation
        return (Clause.behind (" CONSTRAINT " ++ name.spell ++ " ") option :: rest, last)
    else match ← g.columnOption? with
    | some option =>
      let (rest, last) ← g.columnOptions fuel collation
      return (Clause.behind " " option :: rest, last)
    | none =>
      let mayCollate ← dialectIn [.mysql, .generic]
      let collates ← if mayCollate then keyword "COLLATE" else pure false
      if collates then g.columnOptions fuel (some (ObjectName.spell (← objectName)))
      else return ([], collation)

/-- Whether a column has no type, which one dialect allows. -/
def lacksType : Read Bool := do
  if !(← dialectIn [.sqlite]) then return false
  match (← peek).token with
  | .word _ none k =>
    return ["CONSTRAINT", "PRIMARY", "NOT", "UNIQUE", "CHECK", "DEFAULT", "COLLATE", "REFERENCES",
      "GENERATED", "AS"].contains k
  | .word .. => return false
  | _ => return true

/-- A column of a table. -/
def columnDefinition (g : Grammar) : Read Clause := do
  let name ← ident
  let type ← if ← lacksType then pure "" else do pure (" " ++ (← dataType))
  let collation ← afterKeyword "COLLATE" objectName
  let (options, collation) ←
    g.columnOptions (← get).length (collation.map ObjectName.spell)
  let collation := match collation with
    | none => ""
    | some c => " COLLATE " ++ c
  return Clause.behind (name.spell ++ type ++ collation) (Clause.concat options)

/-- The name of an index, if there is one. -/
def indexName? : Read String := do
  match ← maybe ident with
  | none => return ""
  | some name => return " " ++ name.spell

/-- The kind of an index, if one is given. -/
def indexKind? : Read String := do
  if !(← keyword "USING") then return ""
  match ← oneOf ["BTREE", "HASH"] with
  | some k => return " USING " ++ k
  | none => expectedNext "index type \x7bBTREE | HASH\x7d"

/-- A constraint of a table, if one comes next. -/
def tableConstraint? (g : Grammar) : Read (Option Clause) := do
  let name ← afterKeyword "CONSTRAINT" ident
  let named := match name with
    | none => ""
    | some n => "CONSTRAINT " ++ n.spell ++ " "
  let isMysqlOrGeneric ← dialectIn [.mysql, .generic]
  let start ← get
  let t ← next
  match t.token with
  | .word _ none "UNIQUE" =>
    let word ← match ← oneOf ["KEY", "INDEX"] with
      | some k => pure (" " ++ k)
      | none => pure ""
    if !isMysqlOrGeneric && !word.isEmpty then
      expectedNext "\x60index_name\x60 or \x60(column_name [, ...])\x60"
    let index ← indexName?
    let kind ← indexKind?
    let columns ← columnNames
    let ending ← characteristics 3 none none none
    return some (Clause.plain (named ++ "UNIQUE" ++ word ++ index ++ kind ++ " " ++ columns
      ++ ending))
  | .word _ none "PRIMARY" =>
    expectKeyword "KEY"
    let index ← indexName?
    let kind ← indexKind?
    let columns ← columnNames
    let ending ← characteristics 3 none none none
    return some (Clause.plain (named ++ "PRIMARY KEY" ++ index ++ kind ++ " " ++ columns ++ ending))
  | .word _ none "FOREIGN" =>
    expectKeyword "KEY"
    let columns ← columnNames
    expectKeyword "REFERENCES"
    let table ← objectName
    let referred ← columnNames
    let actions ← referentialActions 2 none none
    let ending ← characteristics 3 none none none
    return some (Clause.plain (named ++ "FOREIGN KEY " ++ columns ++ " REFERENCES "
      ++ ObjectName.spell table ++ referred ++ actions ++ ending))
  | .word _ none "CHECK" => return some (← g.checked (named ++ "CHECK "))
  | .word _ none k =>
    if (k == "INDEX" || k == "KEY") && isMysqlOrGeneric && name.isNone then
      let index ← if ← peekKeyword "USING" then pure "" else indexName?
      let kind ← indexKind?
      return some (Clause.plain (k ++ index ++ kind ++ " " ++ (← columnNames)))
    else notThere start name.isSome t
  | _ => notThere start name.isSome t
where
  /-- No constraint: a failure behind a name, and otherwise nothing is taken. -/
  notThere (start : List Located) (named : Bool) (t : Located) : Read (Option Clause) := do
    if named then expected "PRIMARY, UNIQUE, FOREIGN, or CHECK" t
    else
      set start
      return none

/-- The columns and the constraints of a table, up to the closing parenthesis. -/
def tableElements (g : Grammar) : Nat → Read (List Clause × List Clause)
  | 0 => expectedNext "column name or constraint definition"
  | fuel + 1 => do
    let (columns, constraints) ← match ← g.tableConstraint? with
      | some constraint => pure ([], [constraint])
      | none =>
        match (← peek).token with
        | .word .. => pure ([← g.columnDefinition], [])
        | _ => expectedNext "column name or constraint definition"
    if ← symbol "," then
      let (moreColumns, moreConstraints) ← g.tableElements fuel
      return (columns ++ moreColumns, constraints ++ moreConstraints)
    else if ← symbol ")" then return (columns, constraints)
    else expectedNext "',' or ')' after column definition"

/-- What is behind `CREATE TABLE`; the words before the table are given. -/
def tableDefinition (g : Grammar) (words : String) : Read Statement := do
  let ifNotExists ← keywords ["IF", "NOT", "EXISTS"]
  let name ← objectName
  let head := "CREATE " ++ words ++ "TABLE " ++ (if ifNotExists then "IF NOT EXISTS " else "")
    ++ ObjectName.spell name
  if (← keyword "LIKE") || (← keyword "ILIKE") then
    return .words (.plain (head ++ " LIKE " ++ ObjectName.spell (← objectName)))
  let elements ←
    if ← symbol "(" then
      if ← symbol ")" then pure []
      else
        let (columns, constraints) ← g.tableElements (← get).length
        pure (columns ++ constraints)
    else pure []
  let options ← if ← keywords ["WITHOUT", "ROWID"] then pure " WITHOUT ROWID" else pure ""
  let options := Clause.plain options
  if ← keyword "AS" then return .createTable ⟨head, elements, options, some (← g.query)⟩
  let mayFollow ← dialectIn [.mysql]
  let follows ← if mayFollow then peekKeyword "SELECT" else pure false
  if follows then return .createTable ⟨head, elements, options, some (← g.query)⟩
  else return .createTable ⟨head, elements, options, none⟩

/-- What is behind the word `VIEW`; the words before it are given. -/
def viewDefinition (g : Grammar) (words : String) : Read Statement := do
  let mayExist ← dialectIn [.sqlite, .generic]
  let ifNotExists ← if mayExist then keywords ["IF", "NOT", "EXISTS"] else pure false
  let name ← objectName
  let columns ← optionalColumnList true
  let columns :=
    if columns.isEmpty then ""
    else " (" ++ commaSeparated (columns.map Ident.spell) ++ ")"
  expectKeyword "AS"
  let q ← g.query
  let isGeneric ← dialectIn [.generic]
  let unbound ← if isGeneric then keywords ["WITH", "NO", "SCHEMA", "BINDING"] else pure false
  let head := "CREATE " ++ words ++ "VIEW " ++ (if ifNotExists then "IF NOT EXISTS " else "")
    ++ ObjectName.spell name ++ columns ++ " AS "
  return .createView (.plain head) q (.plain (if unbound then " WITH NO SCHEMA BINDING" else ""))

/-- A definition behind the word `CREATE`. -/
def creation (g : Grammar) : Read Statement := do
  let replaces ← keywords ["OR", "REPLACE"]
  let replacing := if replaces then "OR REPLACE " else ""
  let reach ← match ← oneOf ["LOCAL", "GLOBAL"] with
    | some k => pure (k ++ " ")
    | none => pure ""
  let transient ← if ← keyword "TRANSIENT" then pure "TRANSIENT " else pure ""
  let temporary ← match ← oneOf ["TEMP", "TEMPORARY"] with
    | some _ => pure "TEMPORARY "
    | none => pure ""
  if ← keyword "TABLE" then
    g.tableDefinition (replacing ++ reach ++ temporary ++ transient)
  else if ← keyword "MATERIALIZED" then
    expectKeyword "VIEW"
    g.viewDefinition (replacing ++ "MATERIALIZED " ++ temporary)
  else if ← keyword "VIEW" then g.viewDefinition (replacing ++ temporary)
  else if replaces then
    expectedNext "[EXTERNAL] TABLE or [MATERIALIZED] VIEW or FUNCTION after CREATE OR REPLACE"
  else expectedNext "an object type after CREATE"

/-- The statement behind the word `DROP`. -/
def drop : Read Statement := do
  let mayBeTemporary ← dialectIn [.mysql, .generic]
  let isTemporary ← if mayBeTemporary then keyword "TEMPORARY" else pure false
  let kinds :=
    ["TABLE", "VIEW", "INDEX", "ROLE", "SCHEMA", "DATABASE", "SEQUENCE", "STAGE", "TYPE"]
  match ← oneOf kinds with
  | none =>
    expectedNext ("TABLE, VIEW, INDEX, ROLE, SCHEMA, DATABASE, FUNCTION, PROCEDURE, STAGE, "
      ++ "TRIGGER, SECRET, SEQUENCE, or TYPE after DROP")
  | some kind =>
    let ifExists ← keywords ["IF", "EXISTS"]
    let names ← commas objectName
    let place := (← peek).span.start
    let cascade ← keyword "CASCADE"
    let restrict ← keyword "RESTRICT"
    let purge ← keyword "PURGE"
    if cascade && restrict then
      failAt "Cannot specify both CASCADE and RESTRICT in DROP" place
    if kind == "ROLE" && (cascade || restrict || purge) then
      failAt "Cannot specify CASCADE, RESTRICT, or PURGE in DROP ROLE" place
    return .words (.plain ("DROP " ++ (if isTemporary then "TEMPORARY " else "") ++ kind
      ++ (if ifExists then " IF EXISTS " else " ")
      ++ commaSeparated (names.map ObjectName.spell) ++ (if cascade then " CASCADE" else "")
      ++ (if restrict then " RESTRICT" else "") ++ (if purge then " PURGE" else "")))

/-- What is behind the word `ADD` in a change of a table. -/
def addition (g : Grammar) : Read Clause := do
  match ← g.tableConstraint? with
  | some constraint => return Clause.behind "ADD " constraint
  | none =>
    let before ← keywords ["IF", "NOT", "EXISTS"]
    let word ← if ← keyword "COLUMN" then pure "COLUMN " else pure ""
    let mayExist ← dialectIn [.postgres, .generic]
    let behind ← if mayExist then keywords ["IF", "NOT", "EXISTS"] else pure false
    let ifNotExists := mayExist && (before || behind)
    let column ← g.columnDefinition
    let mayPlace ← dialectIn [.mysql, .generic]
    let place ←
      if mayPlace then
        if ← keyword "FIRST" then pure " FIRST"
        else match ← afterKeyword "AFTER" ident with
        | some name => pure (" AFTER " ++ name.spell)
        | none => pure ""
      else pure ""
    let head := "ADD " ++ word ++ (if ifNotExists then "IF NOT EXISTS " else "")
    return Clause.behind head ⟨column.pieces, column.ending ++ place⟩

/-- What is behind the word `DROP` in a change of a table. -/
def removedPart : Read String := do
  if ← keyword "CONSTRAINT" then return "DROP CONSTRAINT " ++ (← named)
  if ← keywords ["PRIMARY", "KEY"] then
    if ← dialectIn [.mysql, .generic] then return "DROP PRIMARY KEY"
  let _ ← keyword "COLUMN"
  return "DROP COLUMN " ++ (← named)
where
  /-- A name, whether it has to be there, and what else goes. -/
  named : Read String := do
    let ifExists ← keywords ["IF", "EXISTS"]
    let name ← ident
    let cascade ← keyword "CASCADE"
    return (if ifExists then "IF EXISTS " else "") ++ name.spell
      ++ (if cascade then " CASCADE" else "")

/-- A change of a table. -/
def tableChange (g : Grammar) : Read Clause := do
  if ← keyword "ADD" then g.addition
  else if ← keyword "RENAME" then
    if ← keyword "TO" then
      return Clause.plain ("RENAME TO " ++ ObjectName.spell (← objectName))
    let isPostgres ← dialectIn [.postgres]
    let ofConstraint ← if isPostgres then keyword "CONSTRAINT" else pure false
    if !ofConstraint then
      let _ ← keyword "COLUMN"
    let old ← ident
    expectKeyword "TO"
    let new ← ident
    let word := if ofConstraint then "CONSTRAINT " else "COLUMN "
    return Clause.plain ("RENAME " ++ word ++ old.spell ++ " TO " ++ new.spell)
  else if ← keyword "DROP" then return Clause.plain (← removedPart)
  else
    expectedNext "ADD, RENAME, PARTITION, SWAP, DROP, or SET TBLPROPERTIES after ALTER TABLE"

/-- The statement behind the word `ALTER`. -/
def alteration (g : Grammar) : Read Statement := do
  if ← keyword "TABLE" then
    let ifExists ← keywords ["IF", "EXISTS"]
    let only ← keyword "ONLY"
    let name ← objectName
    let operations ← commas g.tableChange
    return .alterTable ("ALTER TABLE " ++ (if ifExists then "IF EXISTS " else "")
      ++ (if only then "ONLY " else "") ++ ObjectName.spell name ++ " ") operations
  else if ← keyword "VIEW" then
    let name ← objectName
    let columns ← optionalColumnList false
    let columns :=
      if columns.isEmpty then ""
      else " (" ++ commaSeparated (columns.map Ident.spell) ++ ")"
    expectKeyword "AS"
    let head := "ALTER VIEW " ++ ObjectName.spell name ++ columns ++ " AS "
    return .createView (.plain head) (← g.query) (.plain "")
  else expectedNext "one of VIEW or TABLE or INDEX or ROLE or POLICY"

end Grammar

end QueryLint.Sql
