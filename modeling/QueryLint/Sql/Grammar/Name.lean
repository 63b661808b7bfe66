import QueryLint.Sql.Grammar.Basic

/-!
# Names, aliases, literals and types

A name may be any word, keywords included. An alias without `AS` must not be one of the words that
may go on with the statement; which those are depends on what the alias is for.
-/

namespace QueryLint.Sql

open Read

/-- The words that are no alias of a table. -/
def reservedForTables : List String :=
  ["WITH", "EXPLAIN", "ANALYZE", "SELECT", "WHERE", "GROUP", "SORT", "HAVING", "ORDER", "PIVOT",
    "UNPIVOT", "TOP", "LATERAL", "VIEW", "LIMIT", "OFFSET", "FETCH", "UNION", "EXCEPT",
    "INTERSECT", "ON", "JOIN", "INNER", "CROSS", "FULL", "LEFT", "RIGHT", "NATURAL", "USING",
    "CLUSTER", "DISTRIBUTE", "GLOBAL", "ANTI", "SEMI", "OUTER", "SET", "QUALIFY", "WINDOW", "END",
    "FOR", "PARTITION", "PREWHERE", "SETTINGS", "FORMAT", "START", "CONNECT", "MATCH_RECOGNIZE"]

/-- The words that are no alias of a column. -/
def reservedForColumns : List String :=
  ["WITH", "EXPLAIN", "ANALYZE", "SELECT", "WHERE", "GROUP", "SORT", "HAVING", "ORDER", "TOP",
    "LATERAL", "VIEW", "LIMIT", "OFFSET", "FETCH", "UNION", "EXCEPT", "INTERSECT", "CLUSTER",
    "DISTRIBUTE", "RETURNING", "FROM", "INTO", "END"]

/-- A name with its span; a text between quotes that serves as a name has none. -/
def spannedIdent : Read (Ident × Span) := do
  let t ← next
  match t.token with
  | .word text quote _ => return (⟨text, quote⟩, t.span)
  | .quoted .single text => return (⟨text, some '\''⟩, Span.unknown)
  | .quoted .double text => return (⟨text, some '"'⟩, Span.unknown)
  | _ => expected "identifier" t

/-- A name. -/
def ident : Read Ident := do
  return (← spannedIdent).1

/-- More names after points, at most so many. -/
def qualified : Nat → Read ObjectName
  | 0 => return [← ident]
  | n + 1 => do
    let first ← ident
    if ← symbol "." then return first :: (← qualified n) else return [first]

/-- A name with its qualifiers. -/
def objectName : Read ObjectName := do
  qualified (← get).length

/-- An alias, unless a reserved word or something else comes next. -/
def alias? (reserved : List String) : Read (Option Ident) := do
  let afterAs ← keyword "AS"
  let t ← peek
  match t.token with
  | .word text quote k =>
    if afterAs || quote.isSome || !reserved.contains k then
      let _ ← next
      return some ⟨text, quote⟩
    else return none
  | .quoted .single text =>
    let _ ← next
    return some ⟨text, some '\''⟩
  | .quoted .double text =>
    let _ ← next
    return some ⟨text, some '"'⟩
  | _ => if afterAs then expected "an identifier after AS" t else return none

/-- A list of names between parentheses. -/
def columnList : Read (List Ident) := do
  if ← symbol "(" then
    let names ← commas ident
    expectSymbol ")"
    return names
  else expectedNext "a list of columns in parentheses"

/-- A list of names between parentheses, or nothing. -/
def optionalColumnList (mayBeEmpty : Bool) : Read (List Ident) := do
  if ← symbol "(" then
    if mayBeEmpty then
      if ← symbol ")" then return []
    let names ← commas ident
    expectSymbol ")"
    return names
  else return []

/-- A whole number. -/
def wholeNumber : Read String := do
  let t ← next
  match t.token with
  | .number text _ =>
    match text.toNat? with
    | some n => return toString n
    | none =>
      let message := "Could not parse '" ++ text ++ "' as u64: invalid digit found in string"
      failAt message t.span.start
  | _ => expected "literal int" t

/-- A text between single quotes, or in some dialects between double ones. -/
def literalText : Read String := do
  let t ← next
  match t.token with
  | .quoted .single text => return text
  | .quoted .double text => return text
  | .quoted .escape text =>
    if ← dialectIn [.postgres, .generic] then return text else expected "literal string" t
  | _ => expected "literal string" t

/-- The name or number of a parameter. -/
def parameter (mark : String) : Read Literal := do
  let t ← next
  match t.token with
  | .word text _ _ => return .placeholder (mark ++ text)
  | .number text false => return .placeholder (mark ++ text)
  | _ => expected "placeholder" t

/-- A literal. -/
def literalValue : Read Literal := do
  let t ← next
  match t.token with
  | .word _ none k =>
    if k == "TRUE" then return .boolean true
    else if k == "FALSE" then return .boolean false
    else if k == "NULL" then return .null
    else expected "a concrete value" t
  | .word text (some '"') _ => return .quoted .double text
  | .word .. => expected "A value?" t
  | .number text long => return .number text long
  | .quoted kind text => return .quoted kind text
  | .dollarQuoted tag text => return .dollarQuoted tag text
  | .placeholder text => return .placeholder text
  | .symbol ":" => parameter ":"
  | .symbol "@" => parameter "@"
  | _ => expected "a value" t

/-- A number between parentheses, or nothing. -/
def precision : Read String := do
  if ← symbol "(" then
    let n ← wholeNumber
    expectSymbol ")"
    return "(" ++ n ++ ")"
  else return ""

/-- A length between parentheses with its unit, or nothing. -/
def characterLength : Read String := do
  if ← symbol "(" then
    if ← keyword "MAX" then
      expectSymbol ")"
      return "(MAX)"
    let n ← wholeNumber
    let unit ← oneOf ["CHARACTERS", "OCTETS"]
    expectSymbol ")"
    return "(" ++ n ++ (match unit with
      | some u => " " ++ u
      | none => "") ++ ")"
  else return ""

/-- One or two numbers between parentheses, or nothing. -/
def precisionAndScale : Read String := do
  if ← symbol "(" then
    let n ← wholeNumber
    let scale ← if ← symbol "," then pure ("," ++ (← wholeNumber)) else pure ""
    expectSymbol ")"
    return "(" ++ n ++ scale ++ ")"
  else return ""

/-- A whole number type, which may be unsigned. -/
def wholeType (name : String) : Read String := do
  let size ← precision
  return name ++ size ++ (if ← keyword "UNSIGNED" then " UNSIGNED" else "")

/-- A type of times, with or without its zone. -/
def timeType (name : String) : Read String := do
  let size ← precision
  if ← keyword "WITH" then
    expectKeywords ["TIME", "ZONE"]
    return name ++ size ++ " WITH TIME ZONE"
  else if ← keyword "WITHOUT" then
    expectKeywords ["TIME", "ZONE"]
    return name ++ size ++ " WITHOUT TIME ZONE"
  else return name ++ size

/-- A type of texts. -/
def characterType (name : String) : Read String := do
  if ← keyword "VARYING" then return name ++ " VARYING" ++ (← characterLength)
  else if ← keywords ["LARGE", "OBJECT"] then return name ++ " LARGE OBJECT" ++ (← precision)
  else return name ++ (← characterLength)

/-- The values of an enumeration. -/
def textValues : Read String := do
  let values ← parenthesized (commas literalText)
  return "(" ++ commaSeparated (values.map (quoteWith '\'')) ++ ")"

/-- The types whose name is all there is to them. -/
def plainTypes : List String :=
  ["BOOLEAN", "BOOL", "REAL", "FLOAT4", "FLOAT32", "FLOAT64", "FLOAT8", "UUID", "DATE", "DATE32",
    "JSON", "JSONB", "REGCLASS", "TEXT", "TINYTEXT", "MEDIUMTEXT", "LONGTEXT", "BYTEA",
    "TINYBLOB", "MEDIUMBLOB", "LONGBLOB", "TRIGGER", "INTERVAL", "INT16", "INT128", "INT256",
    "UINT8", "UINT16", "UINT32", "UINT64", "UINT128", "UINT256"]

/-- The whole number types, which may be unsigned. -/
def wholeTypes : List String :=
  ["TINYINT", "INT2", "SMALLINT", "MEDIUMINT", "INT", "INT4", "INT8", "INTEGER", "BIGINT"]

/-- A modifier of a type that is not built in. -/
def typeModifier : Read String := do
  let t ← next
  match t.token with
  | .word text _ _ => return text
  | .number text _ => return text
  | .quoted .single text => return text
  | _ => expected "type modifiers" t

/-- A type, and whether it is one that is built in. -/
def typeAndKind : Nat → Read (String × Bool)
  | 0 => expectedNext "a data type name"
  | fuel + 1 => do
    let t ← peek
    let builtIn (type : Read String) : Read (String × Bool) := do
      let _ ← next
      return (← type, true)
    let (type, known) ← match t.token with
      | .word _ none k =>
        if plainTypes.contains k then builtIn (pure k)
        else if wholeTypes.contains k then builtIn (wholeType k)
        else match k with
        | "FLOAT" => builtIn do return "FLOAT" ++ (← precision)
        | "DOUBLE" => builtIn do
          return if ← keyword "PRECISION" then "DOUBLE PRECISION" else "DOUBLE"
        | "VARCHAR" => builtIn do return "VARCHAR" ++ (← characterLength)
        | "NVARCHAR" => builtIn do return "NVARCHAR" ++ (← characterLength)
        | "CHARACTER" => builtIn (characterType "CHARACTER")
        | "CHAR" => builtIn (characterType "CHAR")
        | "CLOB" => builtIn do return "CLOB" ++ (← precision)
        | "BINARY" => builtIn do return "BINARY" ++ (← precision)
        | "VARBINARY" => builtIn do return "VARBINARY" ++ (← precision)
        | "BLOB" => builtIn do return "BLOB" ++ (← precision)
        | "BYTES" => builtIn do return "BYTES" ++ (← precision)
        | "BIT" => builtIn do
          if ← keyword "VARYING" then return "BIT VARYING" ++ (← precision)
          else return "BIT" ++ (← precision)
        | "DATETIME" => builtIn do return "DATETIME" ++ (← precision)
        | "TIMESTAMP" => builtIn (timeType "TIMESTAMP")
        | "TIMESTAMPTZ" => builtIn do return "TIMESTAMPTZ" ++ (← precision)
        | "TIME" => builtIn (timeType "TIME")
        | "TIMETZ" => builtIn do return "TIMETZ" ++ (← precision)
        | "STRING" => builtIn do return "STRING" ++ (← precision)
        | "NUMERIC" => builtIn do return "NUMERIC" ++ (← precisionAndScale)
        | "DECIMAL" => builtIn do return "DECIMAL" ++ (← precisionAndScale)
        | "DEC" => builtIn do return "DEC" ++ (← precisionAndScale)
        | "BIGNUMERIC" => builtIn do return "BIGNUMERIC" ++ (← precisionAndScale)
        | "BIGDECIMAL" => builtIn do return "BIGDECIMAL" ++ (← precisionAndScale)
        | "ENUM" => builtIn do return "ENUM" ++ (← textValues)
        | "SET" => builtIn do return "SET" ++ (← textValues)
        | "ARRAY" => builtIn do
          expectSymbol "<"
          let (inner, _) ← typeAndKind fuel
          expectSymbol ">"
          return "ARRAY<" ++ inner ++ ">"
        | _ => other
      | .word .. => other
      | _ => expected "a data type name" t
    return (type ++ (← brackets (← get).length), known)
where
  /-- A type that is not built in. -/
  other : Read (String × Bool) := do
    let name ← objectName
    if ← symbol "(" then
      let modifiers ← commas typeModifier
      expectSymbol ")"
      return (ObjectName.spell name ++ "(" ++ commaSeparated modifiers ++ ")", false)
    else return (ObjectName.spell name, false)
  /-- The brackets that make an array type. -/
  brackets : Nat → Read String
    | 0 => return ""
    | n + 1 => do
      if ← symbol "[" then
        let size := (← maybe wholeNumber).getD ""
        expectSymbol "]"
        return "[" ++ size ++ "]" ++ (← brackets n)
      else return ""

/-- A type, built in or not. -/
def dataType : Read String := do
  return (← typeAndKind (← get).length).1

/-- A column of an alias. -/
def aliasColumn : Read AliasColumn := do
  let name ← ident
  return ⟨name, ← maybe dataType⟩

/-- The columns of an alias. -/
def aliasColumns : Read (List AliasColumn) := do
  if ← symbol "(" then
    let columns ← commas aliasColumn
    expectSymbol ")"
    return columns
  else return []

/-- The alias of a table. -/
def tableAlias? : Read (Option TableAlias) := do
  match ← alias? reservedForTables with
  | none => return none
  | some name => return some ⟨name, ← aliasColumns⟩

end QueryLint.Sql
