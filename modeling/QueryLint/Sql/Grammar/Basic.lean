import QueryLint.Dialect
import QueryLint.Sql.Spelling

/-!
# Reading tokens

What reading statements is made of: looking at the next token, taking it, and failing with a message
that names what was expected, what was found, and where. Reading that failed can be taken back and
tried in another way. Statements, queries and expressions may only be nested to a certain depth; that
failure is never taken back silently.
-/

namespace QueryLint.Sql

/-- Why tokens are not a statement. -/
inductive Failure
  | message (text : String)
  | tooDeep
  deriving DecidableEq, Repr

/-- The text of a failure. -/
def Failure.text : Failure → String
  | message text => text
  | tooDeep => "sql parser error: recursion limit exceeded"

/-- What reading depends on: the dialect and how much deeper the nesting may go. -/
structure Setup where
  dialect : Dialect
  depth : Nat

/-- Reading that takes tokens and gives an `α`. -/
abbrev Read := ReaderT Setup (StateT (List Located) (Except Failure))

namespace Read

variable {α β : Type}

/-- The dialect. -/
def dialect : Read Dialect := do return (← read).dialect

/-- Whether the dialect is one of those given. -/
def dialectIn (dialects : List Dialect) : Read Bool := do
  return dialects.contains (← dialect)

/-- The next token. -/
def peek : Read Located := do
  match ← get with
  | [] => return Located.eof
  | t :: _ => return t

/-- The token some places further on. -/
def peekAt (n : Nat) : Read Token := do
  match (← get)[n]? with
  | none => return .eof
  | some t => return t.token

/-- Takes the next token. -/
def next : Read Located := do
  match ← get with
  | [] => return Located.eof
  | t :: rest =>
    set rest
    return t

/-- Fails with a message about a place. -/
def failAt (text : String) (place : Location) : Read α :=
  throw (.message (text ++ place.suffix))

/-- Fails because something else was found. -/
def expected (what : String) (found : Located) : Read α :=
  failAt ("Expected: " ++ what ++ ", found: " ++ found.token.spell) found.span.start

/-- Fails because something else comes next. -/
def expectedNext (what : String) : Read α := do
  expected what (← peek)

/-- Whether a token is a keyword. -/
def isKeyword (k : String) : Token → Bool
  | .word _ none keyword => keyword == k
  | _ => false

/-- Whether a token is a symbol. -/
def isSymbol (s : String) : Token → Bool
  | .symbol text => text == s
  | _ => false

/-- Whether a keyword comes next. -/
def peekKeyword (k : String) : Read Bool := do
  return isKeyword k (← peek).token

/-- Whether a symbol comes next. -/
def peekSymbol (s : String) : Read Bool := do
  return isSymbol s (← peek).token

/-- Takes a keyword if it comes next. -/
def keyword (k : String) : Read Bool := do
  if ← peekKeyword k then
    let _ ← next
    return true
  else return false

/-- Takes several keywords if they all come next. -/
def keywords (ks : List String) : Read Bool := do
  let tokens ← get
  if ks.length ≤ tokens.length
      && (List.zipWith (fun k (t : Located) => isKeyword k t.token) ks tokens).all id then
    set (tokens.drop ks.length)
    return true
  else return false

/-- Takes the first of several keywords that comes next. -/
def oneOf : List String → Read (Option String)
  | [] => return none
  | k :: rest => do
    if ← keyword k then return some k else oneOf rest

/-- Takes a symbol if it comes next. -/
def symbol (s : String) : Read Bool := do
  if ← peekSymbol s then
    let _ ← next
    return true
  else return false

/-- Takes a keyword, which has to come next. -/
def expectKeyword (k : String) : Read Unit := do
  if !(← keyword k) then expectedNext k

/-- Takes several keywords, which have to come next. -/
def expectKeywords (ks : List String) : Read Unit :=
  ks.forM expectKeyword

/-- Takes a symbol, which has to come next. -/
def expectSymbol (s : String) : Read Unit := do
  if !(← symbol s) then expectedNext s

/-- Tries to read; what was taken is put back where it fails. -/
def attempt (item : Read α) : Read (Except Failure α) := fun setup tokens =>
  match item setup tokens with
  | .ok (x, rest) => .ok (.ok x, rest)
  | .error failure => .ok (.error failure, tokens)

/-- Tries to read, and goes on without where that fails; too deep a nesting is not taken back. -/
def maybe (item : Read α) : Read (Option α) := do
  match ← attempt item with
  | .ok x => return some x
  | .error .tooDeep => throw .tooDeep
  | .error (.message _) => return none

/-- Reads one level deeper. -/
def deeper (item : Read α) : Read α := fun setup tokens =>
  match setup.depth with
  | 0 => .error .tooDeep
  | depth + 1 => item { setup with depth } tokens

/-- Items with commas between them, at most so many. -/
def separated (item : Read α) : Nat → Read (List α)
  | 0 => return [← item]
  | n + 1 => do
    let x ← item
    if ← symbol "," then return x :: (← separated item n) else return [x]

/-- Items with commas between them, at least one. -/
def commas (item : Read α) : Read (List α) := do
  separated item (← get).length

/-- Items with commas between them up to a symbol, perhaps none. -/
def commasUntil (item : Read α) (stop : String) : Read (List α) := do
  if ← peekSymbol stop then return [] else commas item

/-- Something between parentheses. -/
def parenthesized (item : Read α) : Read α := do
  expectSymbol "("
  let x ← item
  expectSymbol ")"
  return x

/-- Something after a keyword, if the keyword is there. -/
def afterKeyword (k : String) (item : Read α) : Read (Option α) := do
  if ← keyword k then return some (← item) else return none

/-- Things after keywords, or none if the keywords are not there. -/
def afterKeywords (ks : List String) (items : Read (List α)) : Read (List α) := do
  if ← keywords ks then items else return []

end Read

end QueryLint.Sql
