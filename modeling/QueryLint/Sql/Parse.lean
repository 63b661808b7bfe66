import QueryLint.Sql.Grammar.Statement
import QueryLint.Sql.Lexer

/-!
# Reading statements

The families of readers are tied together here. Each may call the others on what is left of the
tokens, so the number of calls that are open at once is bounded by the number of tokens; that bound
is what the recursion runs on.
-/

namespace QueryLint.Sql

/-- A reader that gives up. -/
def exhausted {α : Type} : Read α := throw .tooDeep

/-- The readers, with so many calls open at once. -/
def grammar : Nat → Grammar
  | 0 =>
    { expr := fun _ => exhausted
      operand := exhausted
      query := exhausted
      body := fun _ => exhausted
      relation := exhausted
      factor := exhausted
      statement := exhausted }
  | calls + 1 =>
    let g := grammar calls
    { expr := g.exprOf
      operand := g.operandOf
      query := g.queryOf g.insertion g.change
      body := g.bodyOf
      relation := g.relationOf
      factor := g.factorOf (g.valueRows false)
      statement := g.statementOf }

/-- How deep statements, queries and expressions may be nested. -/
def maxDepth : Nat := 50

/-- Passes over semicolons, and tells whether there was one. -/
def semicolons : Nat → Read Bool
  | 0 => return false
  | n + 1 => do
    if ← Read.symbol ";" then
      let _ ← semicolons n
      return true
    else return false

/-- Statements with semicolons between them; the word `END` behind one ends them all. -/
def statements (g : Grammar) : Nat → Bool → Read (List Statement)
  | 0, _ => return []
  | fuel + 1, afterStatement => do
    let separated ← semicolons (← get).length
    if (← get).isEmpty then return []
    let mayStart := separated || !afterStatement
    if !mayStart && (← Read.peekKeyword "END") then return []
    if !mayStart then Read.expectedNext "end of statement"
    let first ← g.statement
    return first :: (← statements g fuel true)

/-- The statements of a text. -/
def parse (dialect : Dialect) (text : String) : Except Failure (List Statement) :=
  match lex dialect text.toList with
  | .error message => .error (.message message)
  | .ok tokens =>
    let g := grammar (8 * tokens.length + 64)
    match statements g (tokens.length + 1) false ⟨dialect, maxDepth⟩ tokens with
    | .ok (parsed, _) => .ok parsed
    | .error failure => .error failure

end QueryLint.Sql
