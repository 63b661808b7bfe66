import QueryLint.Sql.Grammar.Parts
import QueryLint.Sql.Grammar.Precedence

/-!
# Expressions

An operand is read first, then operators with their right operands as long as they bind more
strongly than what stands before. A word that opens a special form and does not make one is read as
a name, unless it is one of the few that never are.
-/

namespace QueryLint.Sql.Grammar

open Read

/-- The fields of times. -/
def timeFields : List String :=
  ["YEAR", "YEARS", "MONTH", "MONTHS", "WEEK", "WEEKS", "DAY", "DAYS", "DAYOFWEEK", "DAYOFYEAR",
    "DATE", "DATETIME", "HOUR", "HOURS", "MINUTE", "MINUTES", "SECOND", "SECONDS", "CENTURY",
    "DECADE", "DOW", "DOY", "EPOCH", "ISODOW", "ISOYEAR", "ISOWEEK", "JULIAN", "MICROSECOND",
    "MICROSECONDS", "MILLENIUM", "MILLENNIUM", "MILLISECOND", "MILLISECONDS", "NANOSECOND",
    "NANOSECONDS", "QUARTER", "TIME", "TIMEZONE", "TIMEZONE_ABBR", "TIMEZONE_HOUR",
    "TIMEZONE_MINUTE", "TIMEZONE_REGION"]

/-- A field of a time. -/
def timeField : Read String := do
  let t ← next
  match t.token with
  | .word text quote k =>
    if quote.isNone && timeFields.contains k then return k
    else if ← dialectIn [.postgres, .generic] then return (Ident.mk text quote).spell
    else expected "date/time field" t
  | _ => expected "date/time field" t

/-- The parts of a phrase: text, an expression, and text again. -/
def phrase (before : String) (e : Expr) (after : String) (more : List Piece) : Expr :=
  .phrase (⟨before, e, after⟩ :: more)

/-- A choice behind `CASE`: conditions and results. -/
def caseBranches (g : Grammar) : Nat → Read (List Expr × List Expr)
  | 0 => return ([], [])
  | fuel + 1 => do
    let condition ← g.anyExpr
    expectKeyword "THEN"
    let result ← g.anyExpr
    if ← keyword "WHEN" then
      let (conditions, results) ← g.caseBranches fuel
      return (condition :: conditions, result :: results)
    else return ([condition], [result])

/-- A choice behind `CASE`. -/
def caseExpr (g : Grammar) : Read Expr := do
  let operand ←
    if ← keyword "WHEN" then pure none
    else
      let e ← g.anyExpr
      expectKeyword "WHEN"
      pure (some e)
  let (conditions, results) ← g.caseBranches (← get).length
  let otherwise ← afterKeyword "ELSE" g.anyExpr
  expectKeyword "END"
  return .case operand conditions results otherwise

/-- What is behind one of the words for casts. -/
def castExpr (g : Grammar) (style : CastStyle) : Read Expr :=
  parenthesized do
    let e ← g.anyExpr
    expectKeyword "AS"
    return .cast style e (← dataType)

/-- What is behind `CONVERT`. -/
def convertExpr (g : Grammar) : Read Expr :=
  parenthesized do
    let e ← g.anyExpr
    if ← keyword "USING" then
      return phrase "CONVERT(" e (" USING " ++ ObjectName.spell (← objectName) ++ ")") []
    expectSymbol ","
    let type ← dataType
    let charset ←
      if ← keywords ["CHARACTER", "SET"] then
        pure (" CHARACTER SET " ++ ObjectName.spell (← objectName))
      else pure ""
    return phrase "CONVERT(" e (", " ++ type ++ charset ++ ")") []

/-- What is behind `EXISTS`. -/
def existsExpr (g : Grammar) (negated : Bool) : Read Expr := do
  return .exists negated (← parenthesized g.query)

/-- What is behind `EXTRACT`. -/
def extractExpr (g : Grammar) : Read Expr :=
  parenthesized do
    let field ← timeField
    if ← keyword "FROM" then
      return phrase ("EXTRACT(" ++ field ++ " FROM ") (← g.anyExpr) ")" []
    if (← symbol ",") && (← dialectIn [.generic]) then
      return phrase ("EXTRACT(" ++ field ++ ", ") (← g.anyExpr) ")" []
    throw (.message "Expected 'FROM' or ','")

/-- What is behind `CEIL` and `FLOOR`. -/
def roundingExpr (g : Grammar) (name : String) : Read Expr :=
  parenthesized do
    let e ← g.anyExpr
    if ← keyword "TO" then
      return phrase (name ++ "(") e (" TO " ++ (← timeField) ++ ")") []
    if ← symbol "," then
      match ← literalValue with
      | .number text long =>
        return phrase (name ++ "(") e (", " ++ (Literal.number text long).spell ++ ")") []
      | _ => throw (.message "Scale field can only be of number type")
    return phrase (name ++ "(") e ")" []

/-- What is behind `POSITION`, where it is not an ordinary function. -/
def positionExpr (g : Grammar) : Read Expr :=
  parenthesized do
    let e ← g.expr (← strengthOf .range)
    expectKeyword "IN"
    return phrase "POSITION(" e " IN " [⟨"", ← g.anyExpr, ")"⟩]

/-- What is behind `SUBSTRING`. -/
def substringExpr (g : Grammar) : Read Expr :=
  parenthesized do
    let e ← g.anyExpr
    let special ← symbol ","
    let first ← if special then some <$> g.anyExpr else afterKeyword "FROM" g.anyExpr
    let count ←
      if ← keyword "FOR" then some <$> g.anyExpr
      else if ← symbol "," then some <$> g.anyExpr
      else pure none
    let part (word : String) : Option Expr → List Piece
      | none => []
      | some x => [⟨if special then ", " else word, x, ""⟩]
    return .phrase (closeLast (⟨"SUBSTRING(", e, ""⟩ :: part " FROM " first ++ part " FOR " count))
where
  /-- Puts the closing parenthesis behind the last piece. -/
  closeLast : List Piece → List Piece
    | [] => []
    | [p] => [⟨p.before, p.expr, ")"⟩]
    | p :: rest => p :: closeLast rest

/-- What is behind `OVERLAY`. -/
def overlayExpr (g : Grammar) : Read Expr :=
  parenthesized do
    let e ← g.anyExpr
    expectKeyword "PLACING"
    let what ← g.anyExpr
    expectKeyword "FROM"
    let start ← g.anyExpr
    match ← afterKeyword "FOR" g.anyExpr with
    | none => return phrase "OVERLAY(" e " PLACING " [⟨"", what, " FROM "⟩, ⟨"", start, ")"⟩]
    | some count =>
      return phrase "OVERLAY(" e " PLACING "
        [⟨"", what, " FROM "⟩, ⟨"", start, " FOR "⟩, ⟨"", count, ")"⟩]

/-- Pieces with a separator between them and text behind the last. -/
def pieces (separator ending : String) : List Expr → List Piece
  | [] => []
  | [e] => [⟨"", e, ending⟩]
  | e :: rest => ⟨"", e, separator⟩ :: pieces separator ending rest

/-- What is behind `TRIM`. -/
def trimExpr (g : Grammar) : Read Expr :=
  parenthesized do
    let side ← match ← oneOf ["BOTH", "LEADING", "TRAILING"] with
      | some k => pure (k ++ " ")
      | none => pure ""
    let e ← g.anyExpr
    if ← keyword "FROM" then
      return phrase ("TRIM(" ++ side) e " FROM " [⟨"", ← g.anyExpr, ")"⟩]
    if (← peekSymbol ",") && (← dialectIn [.generic]) then
      let _ ← symbol ","
      return phrase ("TRIM(" ++ side) e ", " (pieces ", " ")" (← commas g.anyExpr))
    return phrase ("TRIM(" ++ side) e ")" []

/-- The unit and the precision of an interval. -/
def intervalUnit : Read String := do
  let unit ← match (← peek).token with
    | .word _ none k => if timeFields.contains k then some <$> timeField else pure none
    | _ => pure none
  match unit with
  | none =>
    if ← dialectIn [.mysql] then
      failAt "INTERVAL requires a unit after the literal value" (← peek).span.start
    else return ""
  | some "SECOND" => return " SECOND" ++ (← precisionPair)
  | some field =>
    let size ← spaced
    if ← keyword "TO" then
      let last ← timeField
      let fraction ← if last == "SECOND" then spaced else pure ""
      return " " ++ field ++ size ++ " TO " ++ last ++ fraction
    else return " " ++ field ++ size
where
  /-- A precision with a blank before it. -/
  spaced : Read String := do
    let size ← precision
    return if size.isEmpty then "" else " " ++ size
  /-- One or two numbers with a blank between them. -/
  precisionPair : Read String := do
    if ← symbol "(" then
      let n ← wholeNumber
      let scale ← if ← symbol "," then pure (", " ++ (← wholeNumber)) else pure ""
      expectSymbol ")"
      return " (" ++ n ++ scale ++ ")"
    else return ""

/-- What is behind `INTERVAL`. -/
def intervalExpr (g : Grammar) : Read Expr := do
  let value ← if ← dialectIn [.mysql] then g.anyExpr else g.operand
  return phrase "INTERVAL " value (← intervalUnit) []

/-- The items of an array behind its opening bracket. -/
def arrayExpr (g : Grammar) (named : Bool) : Read Expr := do
  let items ← commasUntil g.anyExpr "]"
  expectSymbol "]"
  return .array named items

/-- What is behind `NOT`. -/
def notExpr (g : Grammar) : Read Expr := do
  if ← keyword "EXISTS" then g.existsExpr true
  else return .unary "NOT " (← g.expr (← strengthOf .negation))

/-- What is behind `MATCH` where it searches texts. -/
def matchExpr : Read Expr := do
  let columns ← columnList
  expectKeyword "AGAINST"
  expectSymbol "("
  let value ← literalValue
  let modifier ←
    if ← keywords ["IN", "NATURAL", "LANGUAGE", "MODE"] then
      if ← keywords ["WITH", "QUERY", "EXPANSION"] then
        pure " IN NATURAL LANGUAGE MODE WITH QUERY EXPANSION"
      else pure " IN NATURAL LANGUAGE MODE"
    else if ← keywords ["IN", "BOOLEAN", "MODE"] then pure " IN BOOLEAN MODE"
    else if ← keywords ["WITH", "QUERY", "EXPANSION"] then pure " WITH QUERY EXPANSION"
    else pure ""
  expectSymbol ")"
  let names := commaSeparated (columns.map Ident.spell)
  return phrase ("MATCH (" ++ names ++ ") AGAINST (") (.literal value) (modifier ++ ")") []

/-- One end of the frame of a window. -/
def frameBound (g : Grammar) : Read Clause := do
  if ← keywords ["CURRENT", "ROW"] then return .plain "CURRENT ROW"
  let rows ←
    if ← keyword "UNBOUNDED" then pure (Clause.plain "UNBOUNDED")
    else match (← peek).token with
      | .quoted .single _ => do pure ⟨[piece (← g.intervalExpr)], ""⟩
      | _ => do pure ⟨[piece (← g.anyExpr)], ""⟩
  if ← keyword "PRECEDING" then return rows.append (.plain " PRECEDING")
  else if ← keyword "FOLLOWING" then return rows.append (.plain " FOLLOWING")
  else expectedNext "PRECEDING or FOLLOWING"

/-- The frame of a window. -/
def windowFrame (g : Grammar) : Read Clause := do
  let unit ← match ← oneOf ["ROWS", "RANGE", "GROUPS"] with
    | some k => pure k
    | none => expectedNext "ROWS, RANGE, GROUPS"
  if ← keyword "BETWEEN" then
    let start ← g.frameBound
    expectKeyword "AND"
    return (start.append ((← g.frameBound).behind " AND ")).behind (unit ++ " BETWEEN ")
  else return (← g.frameBound).behind (unit ++ " ")

/-- The rows that a function looks at, behind the opening parenthesis. -/
def windowSpec (g : Grammar) : Read Window := do
  let base ← match (← peek).token with
    | .word _ _ k =>
      if ["PARTITION", "ORDER", "ROWS", "RANGE", "GROUPS"].contains k then pure none
      else maybe ident
    | _ => pure none
  let partition ← afterKeywords ["PARTITION", "BY"] (commas g.anyExpr)
  let order ← g.orderBy
  if ← symbol ")" then return .spec base partition order (.plain "")
  let frame ← g.windowFrame
  expectSymbol ")"
  return .spec base partition order frame

/-- The word before the arguments of a function. -/
def treatment : Read String := do
  let place := (← peek).span.start
  let all ← keyword "ALL"
  let distinct ← keyword "DISTINCT"
  match all, distinct with
  | true, true => failAt "Cannot specify both ALL and DISTINCT" place
  | true, false => return "ALL "
  | false, true => return "DISTINCT "
  | false, false => return ""

/-- How a function treats missing values. -/
def nullTreatment : Read String := do
  match ← oneOf ["RESPECT", "IGNORE"] with
  | some k =>
    expectKeyword "NULLS"
    return " " ++ k ++ " NULLS"
  | none => return ""

/-- What may follow the arguments inside their parentheses. -/
def argumentClauses (g : Grammar) : Read (List Piece × String) := do
  let order ← g.orderBy
  let orderPieces := match order with
    | [] => []
    | first :: rest =>
      ⟨"ORDER BY ", first.expr, first.after⟩ :: rest.map fun p => ⟨", ", p.expr, p.after⟩
  let limit ← afterKeyword "LIMIT" g.anyExpr
  let limitPieces := match limit with
    | none => []
    | some e => [⟨if order.isEmpty then "LIMIT " else " LIMIT ", e, ""⟩]
  let clauses := orderPieces ++ limitPieces
  let separator ←
    if ← dialectIn [.generic, .mysql] then afterKeyword "SEPARATOR" literalValue else pure none
  match separator with
  | some text =>
    return (clauses, (if clauses.isEmpty then "" else " ") ++ "SEPARATOR " ++ text.spell)
  | none => return (clauses, "")

/-- The condition on the rows that a function looks at. -/
def rowFilter (g : Grammar) : Read (Option Expr) := do
  if ← keyword "FILTER" then
    if ← symbol "(" then
      if ← keyword "WHERE" then
        let e ← g.anyExpr
        expectSymbol ")"
        return some e
  return none

/-- A call of a function, its name being read. -/
def call (g : Grammar) (name : ObjectName) : Read Call := do
  expectSymbol "("
  let (word, args, clauses, ending) ←
    if ← symbol ")" then pure ("", [], [], "")
    else
      let word ← treatment
      let args ← commas g.functionArgument
      let (clauses, ending) ← g.argumentClauses
      expectSymbol ")"
      pure (word, args, clauses, ending)
  let within ←
    if ← keywords ["WITHIN", "GROUP"] then
      parenthesized do
        expectKeywords ["ORDER", "BY"]
        commas g.orderItem
    else pure []
  let filter ← if ← dialectIn [.postgres, .sqlite, .generic] then g.rowFilter else pure none
  let nulls ← nullTreatment
  let window ←
    if ← keyword "OVER" then
      if ← symbol "(" then g.windowSpec else pure (.named (← ident))
    else pure .none
  return ⟨name, true, word, args, clauses, ending, within, filter, nulls, window⟩

/-- A function that may be called without parentheses. -/
def bareCall (name : ObjectName) : Call :=
  ⟨name, false, "", [], [], "", [], none, "", .none⟩

/-- A function of the time. -/
def timeCall (g : Grammar) (name : ObjectName) : Read Expr := do
  if ← symbol "(" then
    if ← symbol ")" then return .call { bareCall name with parenthesized := true }
    let word ← treatment
    let args ← commas g.functionArgument
    let (clauses, ending) ← g.argumentClauses
    expectSymbol ")"
    return .call ⟨name, true, word, args, clauses, ending, [], none, "", .none⟩
  else return .call (bareCall name)

/-- The words that are never names of columns. -/
def neverNames : List String := ["EXISTS", "INTERVAL", "STRUCT", "TRIM"]

/-- The special form that a word opens, if it opens one. -/
def specialForm? (g : Grammar) (text : String) (quote : Option Char) (k : String) :
    Read (Option Expr) := do
  let name : ObjectName := [⟨text, quote⟩]
  let inDialects (ds : List Dialect) : Read Bool := dialectIn ds
  if quote.isSome then return none
  else match k with
  | "TRUE" => return some (.literal (.boolean true))
  | "FALSE" => return some (.literal (.boolean false))
  | "NULL" => return some (.literal .null)
  | "CURRENT_CATALOG" | "CURRENT_USER" | "SESSION_USER" | "USER" =>
    if ← inDialects [.postgres, .generic] then return some (.call (bareCall name))
    else return none
  | "CURRENT_TIMESTAMP" | "CURRENT_TIME" | "CURRENT_DATE" | "LOCALTIME" | "LOCALTIMESTAMP" =>
    some <$> g.timeCall name
  | "CASE" => some <$> g.caseExpr
  | "CONVERT" => some <$> g.convertExpr
  | "CAST" => some <$> g.castExpr .cast
  | "TRY_CAST" => some <$> g.castExpr .tryCast
  | "SAFE_CAST" => some <$> g.castExpr .safeCast
  | "EXISTS" => some <$> g.existsExpr false
  | "EXTRACT" => some <$> g.extractExpr
  | "CEIL" => some <$> g.roundingExpr "CEIL"
  | "FLOOR" => some <$> g.roundingExpr "FLOOR"
  | "POSITION" =>
    if ← peekSymbol "(" then
      match ← maybe g.positionExpr with
      | some e => return some e
      | none => return some (.call (← g.call name))
    else return none
  | "SUBSTRING" => some <$> g.substringExpr
  | "OVERLAY" => some <$> g.overlayExpr
  | "TRIM" => some <$> g.trimExpr
  | "INTERVAL" => some <$> g.intervalExpr
  | "ARRAY" =>
    if ← symbol "[" then some <$> g.arrayExpr true
    else if ← peekSymbol "(" then
      return some (.arrayOf (← parenthesized g.query))
    else return none
  | "NOT" => some <$> g.notExpr
  | "MATCH" =>
    if ← inDialects [.mysql, .generic] then some <$> matchExpr else return none
  | _ => return none

/-- More parts of a name behind points, and whether a star ends it. -/
def nameParts : Nat → ObjectName → Read (ObjectName × Bool)
  | 0, parts => return (parts, false)
  | fuel + 1, parts => do
    if ← symbol "." then
      let t ← next
      match t.token with
      | .word text quote _ => nameParts fuel (parts ++ [⟨text, quote⟩])
      | .symbol "*" =>
        if ← dialectIn [.postgres] then return (parts, true)
        else expected "an identifier after '.'" t
      | .quoted .single text => nameParts fuel (parts ++ [⟨text, some '\''⟩])
      | _ => expected "an identifier or a '*' after '.'" t
    else return (parts, false)

/-- What a word is that opens no special form: a function, or the name of a column. -/
def namedOperand (g : Grammar) (text : String) (quote : Option Char) : Read Expr := do
  let first : Ident := ⟨text, quote⟩
  match (← peek).token with
  | .symbol "(" => return .call (← g.call [first])
  | .symbol "." =>
    let (parts, star) ← nameParts (← get).length [first]
    if star then return .starOf parts
    else if ← peekSymbol "(" then return .call (← g.call parts)
    else return .name parts
  | .quoted kind _ =>
    if text.startsWith "_" && [QuotedKind.single, .double, .hex].contains kind then
      return .typed text (← literalValue)
    else return .name [first]
  | _ => return .name [first]

/-- A literal behind the name of its type. -/
def typedLiteral (g : Grammar) : Read Expr := do
  let (type, known) ← typeAndKind (← get).length
  if type == "INTERVAL" then g.intervalExpr
  else if known then return .typed type (.quoted .single (← literalText))
  else throw (.message "not a type")

/-- What is behind an opening parenthesis. -/
def parenthesizedExpr (g : Grammar) : Read Expr := do
  let e ←
    if ← peekQuery then pure (.subquery (← g.query))
    else match ← commas g.anyExpr with
      | [e] => pure (.nested e)
      | items => pure (.tuple items)
  expectSymbol ")"
  if ← symbol "." then
    let t ← next
    match t.token with
    | .word text quote _ => return phrase "" e ("." ++ (Ident.mk text quote).spell) []
    | _ => failAt ("Expected identifier, found: " ++ t.token.spell) t.span.start
  else return e

/-- A member of a dictionary. -/
def dictionaryMember (g : Grammar) : Read Piece := do
  let name ← ident
  expectSymbol ":"
  return ⟨name.spell ++ ": ", ← g.anyExpr, ""⟩

/-- Pieces with a comma between them and text around them all. -/
def enclosed (opening closing : String) (items : List Piece) : Expr :=
  match items with
  | [] => .literal (.placeholder (opening ++ closing))
  | first :: rest =>
    let joined : List Piece :=
      ⟨opening ++ first.before, first.expr, first.after⟩
        :: rest.map fun p => ⟨", " ++ p.before, p.expr, p.after⟩
    match joined.getLast? with
    | none => .phrase joined
    | some last => .phrase (joined.dropLast ++ [⟨last.before, last.expr, last.after ++ closing⟩])

/-- A literal that the given token starts. -/
def putBack (tokens : List Located) : Read Expr := do
  set tokens
  return .literal (← literalValue)

/-- An operand without the collation behind it. -/
def plainOperand (g : Grammar) : Read Expr := do
  match ← maybe g.typedLiteral with
  | some e => return e
  | none =>
    let start ← get
    let t ← next
    match t.token with
    | .word text quote k =>
      match ← attempt (g.specialForm? text quote k) with
      | .ok (some e) => return e
      | .ok none => g.namedOperand text quote
      | .error failure =>
        if quote.isNone && neverNames.contains k then throw failure
        match ← attempt (g.namedOperand text quote) with
        | .ok e => return e
        | .error _ => throw failure
    | .symbol "[" => g.arrayExpr false
    | .symbol "-" => return .unary "-" (← g.expr (← strengthOf .product))
    | .symbol "+" => return .unary "+" (← g.expr (← strengthOf .product))
    | .symbol "(" => g.parenthesizedExpr
    | .symbol ":" => putBack start
    | .symbol "\x7b" =>
      if ← dialectIn [.generic] then
        let members ← commasUntil g.dictionaryMember "\x7d"
        expectSymbol "\x7d"
        return enclosed "\x7b" "\x7d" members
      else expected "an expression" t
    | .symbol s =>
      let isPostgres ← dialectIn [.postgres]
      if isPostgres && ["!!", "|/", "||/", "@", "~"].contains s then
        return .unary s (← g.expr (← strengthOf .sum))
      else if s == "@" then putBack start
      else expected "an expression" t
    | .quoted .escape _ =>
      if ← dialectIn [.postgres, .generic] then putBack start
      else expected "an expression" t
    | .number .. | .quoted .. | .dollarQuoted .. | .placeholder _ => putBack start
    | _ => expected "an expression" t

/-- An operand with the collation behind it, if any. -/
def operandOf (g : Grammar) : Read Expr := do
  let e ← g.plainOperand
  if ← keyword "COLLATE" then return .collate e (← objectName) else return e

/-- The operator that a token is between two operands, if it is a plain one. -/
def plainOperator? (dialect : Dialect) : Token → Option String
  | .symbol s =>
    if s == "==" then some "="
    else if s == "<<" || s == ">>" then
      if dialect == .postgres || dialect == .generic then some s else none
    else if s == "#" then if dialect == .postgres then some s else none
    else if s == "&&" || s == "^@" then
      if dialect == .postgres || dialect == .generic then some s else none
    else if ["+", "-", "*", "/", "%", "||", "|", "^", "&", "//"].contains s then some s
    else if comparisonSymbols.contains s || otherSymbols.contains s then some s
    else none
  | .customOperator s => some s
  | .word _ none k => if ["AND", "OR", "XOR", "OVERLAPS"].contains k then some k else none
  | _ => none

/-- The name of an operator between parentheses. -/
def operatorName : Nat → Read (List String)
  | 0 => return []
  | fuel + 1 => do
    let t ← next
    if ← symbol "." then return t.token.spell :: (← operatorName fuel)
    else return [t.token.spell]

/-- The right side of a plain operator. -/
def afterOperator (g : Grammar) (left : Expr) (op : String) (place : Location) (strength : Nat) :
    Read Expr := do
  match ← oneOf ["ANY", "ALL", "SOME"] with
  | none => return .binary left op (← g.expr strength)
  | some quantifier =>
    let start ← get
    expectSymbol "("
    let right ←
      if ← peekQuery then
        set start
        g.expr strength
      else
        let e ← g.expr strength
        expectSymbol ")"
        pure e
    if !(["=", "<", ">", "<=", ">=", "<>"].contains op) then
      failAt ("Expected one of [=, >, <, =>, =<, !=] as comparison operator, found: " ++ op) place
    return .quantified left op quantifier right

/-- What is behind `IS`. -/
def afterIs (g : Grammar) (left : Expr) : Read Expr := do
  let tests := [["NULL"], ["NOT", "NULL"], ["TRUE"], ["NOT", "TRUE"], ["FALSE"], ["NOT", "FALSE"],
    ["UNKNOWN"], ["NOT", "UNKNOWN"]]
  match ← firstOf tests with
  | some words => return .test left ("IS " ++ String.intercalate " " words)
  | none =>
    if ← keywords ["DISTINCT", "FROM"] then return .distinctFrom left false (← g.anyExpr)
    else if ← keywords ["NOT", "DISTINCT", "FROM"] then
      return .distinctFrom left true (← g.anyExpr)
    else expectedNext "[NOT] NULL or TRUE|FALSE or [NOT] DISTINCT FROM after IS"
where
  /-- The first of several rows of words that comes next. -/
  firstOf : List (List String) → Read (Option (List String))
    | [] => return none
    | words :: rest => do
      if ← keywords words then return some words else firstOf rest

/-- What is behind `IN`. -/
def afterIn (g : Grammar) (left : Expr) (negated : Bool) : Read Expr := do
  if ← keyword "UNNEST" then
    let array ← parenthesized g.anyExpr
    return phrase "" left (" " ++ negation negated ++ "IN UNNEST(") [⟨"", array, ")"⟩]
  parenthesized do
    if ← peekQuery then return .inQuery left negated (← g.query)
    let items ←
      if ← dialectIn [.sqlite] then commasUntil g.anyExpr ")" else commas g.anyExpr
    return .inList left negated items

/-- What is behind one of the words for patterns. -/
def afterLike (g : Grammar) (left : Expr) (negated : Bool) (op : String) : Read Expr := do
  let any ← if op == "SIMILAR TO" then pure false else keyword "ANY"
  let pattern ← g.expr (← strengthOf .likeness)
  let escape ← afterKeyword "ESCAPE" literalText
  return .like left negated (if any then op ++ " ANY" else op) pattern escape

/-- A test that may be negated. -/
def afterNot (g : Grammar) (left : Expr) : Read Expr := do
  let negated ← keyword "NOT"
  let isRegexp ← keyword "REGEXP"
  let isRlike ← keyword "RLIKE"
  if isRegexp || isRlike then
    let op := if isRegexp then "REGEXP" else "RLIKE"
    return .like left negated op (← g.expr (← strengthOf .likeness)) none
  else if ← keyword "IN" then g.afterIn left negated
  else if ← keyword "BETWEEN" then
    let strength ← strengthOf .range
    let low ← g.expr strength
    expectKeyword "AND"
    return .between left negated low (← g.expr strength)
  else if ← keyword "LIKE" then g.afterLike left negated "LIKE"
  else if ← keyword "ILIKE" then g.afterLike left negated "ILIKE"
  else if ← keywords ["SIMILAR", "TO"] then g.afterLike left negated "SIMILAR TO"
  else expectedNext "IN or BETWEEN after NOT"

/-- What is behind an opening bracket. -/
def afterBracket (g : Grammar) (left : Expr) : Read Expr := do
  if !(← dialectIn [.postgres, .generic]) then
    let e ← g.anyExpr
    expectSymbol "]"
    return .index left e
  if ← symbol ":" then
    if ← symbol "]" then return phrase "" left "[:]" []
    let high ← g.anyExpr
    expectSymbol "]"
    return phrase "" left "[:" [⟨"", high, "]"⟩]
  let low ← g.anyExpr
  if ← symbol "]" then return .index left low
  expectSymbol ":"
  if ← symbol "]" then return phrase "" left "[" [⟨"", low, ":]"⟩]
  let high ← g.anyExpr
  expectSymbol "]"
  return phrase "" left "[" [⟨"", low, ":"⟩, ⟨"", high, "]"⟩]

/-- An operator between operands, and its right side. -/
def infixed (g : Grammar) (left : Expr) (strength : Nat) : Read Expr := do
  let dialect ← Read.dialect
  let start ← get
  let t ← next
  let unknown : Read Expr :=
    failAt ("No infix parser for token " ++ t.token.name) t.span.start
  if dialect == .mysql && isKeyword "DIV" t.token then
    return .binary left "DIV" (← g.anyExpr)
  else if dialect == .sqlite && isKeyword "REGEXP" t.token then
    return .binary left "REGEXP" (← g.anyExpr)
  else match plainOperator? dialect t.token with
  | some op => g.afterOperator left op t.span.start strength
  | none =>
    match t.token with
    | .word _ none k =>
      if k == "OPERATOR" && (dialect == .postgres || dialect == .generic) then
        let parts ← parenthesized (operatorName start.length)
        g.afterOperator left ("OPERATOR(" ++ String.intercalate "." parts ++ ")") t.span.start
          strength
      else if k == "IS" then g.afterIs left
      else if k == "AT" then
        expectKeywords ["TIME", "ZONE"]
        return .binary left "AT TIME ZONE" (← g.expr strength)
      else if ["NOT", "IN", "BETWEEN", "LIKE", "ILIKE", "SIMILAR", "REGEXP", "RLIKE"].contains k then
        set start
        g.afterNot left
      else unknown
    | .symbol "::" => return .cast .doubleColon left (← dataType)
    | .symbol "!" =>
      if dialect == .postgres then return phrase "" left "!" [] else unknown
    | .symbol "[" => g.afterBracket left
    | _ => unknown

/-- Operators as long as they bind more strongly than the strength given. -/
def operators (g : Grammar) (strength : Nat) : Nat → Expr → Read Expr
  | 0, left => return left
  | fuel + 1, left => do
    let found ← nextStrength
    if found ≤ strength then return left
    else g.operators strength fuel (← g.infixed left found)

/-- An expression out of operators that bind more strongly than the strength given. -/
def exprOf (g : Grammar) (strength : Nat) : Read Expr :=
  deeper do
    let e ← g.operand
    g.operators strength (← get).length e

end QueryLint.Sql.Grammar
