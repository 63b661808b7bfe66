import QueryLint.Sql.Grammar.Basic

/-!
# How strongly operators bind

An operator between two operands takes what binds more strongly than itself. One dialect orders its
operators in its own way; the others share an order. A token that is no operator binds with strength
zero.
-/

namespace QueryLint.Sql

/-- Kinds of operators, each with one strength in a dialect. -/
inductive Binding
  | typeCast
  | bracket
  | collation
  | timeZone
  | product
  | sum
  | xor
  | bitAnd
  | caret
  | bitOr
  | range
  | comparison
  | likeness
  | identity
  | other
  | negation
  | conjunction
  | disjunction
  deriving DecidableEq, Repr

/-- The strength of a kind of operator. -/
def Binding.strength (dialect : Dialect) (b : Binding) : Nat :=
  if dialect == .postgres then
    match b with
    | typeCast => 140
    | bracket => 130
    | collation => 120
    | timeZone => 110
    | caret => 100
    | product => 90
    | sum => 80
    | xor => 75
    | other => 70
    | bitAnd => 70
    | bitOr => 70
    | range => 60
    | likeness => 60
    | comparison => 50
    | identity => 40
    | negation => 30
    | conjunction => 20
    | disjunction => 10
  else
    match b with
    | typeCast => 50
    | bracket => 50
    | collation => 42
    | timeZone => 41
    | product => 40
    | sum => 30
    | xor => 24
    | bitAnd => 23
    | caret => 22
    | bitOr => 21
    | range => 20
    | comparison => 20
    | likeness => 19
    | identity => 17
    | other => 16
    | negation => 15
    | conjunction => 10
    | disjunction => 5

/-- The kind of an operator that is a keyword, given the tokens after it. -/
def wordBinding? (dialect : Dialect) (k : String) (second third : Token) : Option Binding :=
  let likenesses := ["LIKE", "ILIKE", "RLIKE", "REGEXP", "SIMILAR"]
  if k == "OR" then some .disjunction
  else if k == "AND" then some .conjunction
  else if k == "XOR" then some .xor
  else if k == "AT" then
    if Read.isKeyword "TIME" second && Read.isKeyword "ZONE" third then some .timeZone else none
  else if k == "NOT" then
    if Read.isKeyword "IN" second || Read.isKeyword "BETWEEN" second then some .range
    else if likenesses.any fun l => Read.isKeyword l second then some .likeness
    else none
  else if k == "IS" then some .identity
  else if ["IN", "BETWEEN", "OVERLAPS", "OPERATOR"].contains k then some .range
  else if likenesses.contains k then some .likeness
  else if k == "DIV" then some .product
  else if k == "COLLATE" && dialect == .postgres then some .collation
  else none

/-- The symbols that compare. -/
def comparisonSymbols : List String :=
  ["=", "<", "<=", "<>", ">", ">=", "==", "~", "~*", "!~", "!~*", "~~", "~~*", "!~~", "!~~*",
    "<=>"]

/-- The symbols of operators on documents and other special values. -/
def otherSymbols : List String :=
  ["->", "->>", "#>", "#>>", "@>", "<@", "#-", "@?", "@@", "?", "?&", "?|"]

/-- The kind of an operator that is a symbol. -/
def symbolBinding? (dialect : Dialect) (s : String) : Option Binding :=
  if comparisonSymbols.contains s then some .comparison
  else if otherSymbols.contains s then some .other
  else if s == "+" || s == "-" then some .sum
  else if ["*", "/", "%"].contains s then some .product
  else if s == "^" then some .caret
  else if s == "::" then some .typeCast
  else if s == "[" then some .bracket
  else if dialect == .postgres then
    if ["||", "#", ">>", "<<", "|", "&", "!", "&&", "^@"].contains s then some .other else none
  else if s == "|" then some .bitOr
  else if s == "&" then some .bitAnd
  else if ["#", ">>", "<<"].contains s then some .caret
  else if s == "||" || s == "//" then some .product
  else if ["!", "&&", "^@"].contains s then some .typeCast
  else none

/-- The strength with which the next token binds. -/
def nextStrength : Read Nat := do
  let dialect ← Read.dialect
  let binding : Option Binding ← match (← Read.peek).token with
    | .word _ none k => do pure (wordBinding? dialect k (← Read.peekAt 1) (← Read.peekAt 2))
    | .symbol s => pure (symbolBinding? dialect s)
    | .customOperator _ => pure (some .other)
    | _ => pure none
  return (binding.map (Binding.strength dialect)).getD 0

/-- The strength of a kind of operator in the dialect that is read. -/
def strengthOf (b : Binding) : Read Nat := do
  return b.strength (← Read.dialect)

end QueryLint.Sql
