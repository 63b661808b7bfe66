import QueryLint.ParseError
import QueryLint.Sql.Parse
import QueryLint.Sql.Render

/-!
# Scripts and parsers

The statements of one text are a script. Which texts are scripts, and how a statement is shown, is for
a `Parser` to say: linting and the command line are given one, as they are given the files that they
read, and rely on nothing about it. It has its own reasons to refuse a text, and tells them in a message.

`Parser.standard` is the grammar of this library. It knows queries, changes of rows, transactions and
explanations, and the common definitions of tables and views; a text with another statement, such as
`SET`, `SHOW` or `CREATE INDEX`, it refuses.
-/

namespace QueryLint.Sql

/-- The statements of one text. -/
abbrev Script := List Statement

/-- The statements written back, each on a line of its own. -/
def Script.render (script : Script) : String :=
  String.join (script.map fun s => s.render ++ ";\n")

/-- A parser, as far as the program makes use of it. -/
structure Parser where
  /-- The statements of a text, or the message about a text that is refused. -/
  parse : Dialect → String → Except String Script
  /-- A statement written back. -/
  display : Statement → String
  /-- A statement with everything that it consists of, for debugging. -/
  debug : Statement → String

/-- The grammar of this library. The inside of a statement it shows for `COMMIT` only. -/
def Parser.standard : Parser where
  parse dialect text := (Sql.parse dialect text).mapError Failure.text
  display := Statement.render
  debug
    | .commit chain => "Commit \x7b\n    chain: " ++ toString chain ++ ",\n\x7d"
    | _ => ""

/-- Reads a text with a parser. The message about a text that is refused tells where it is wrong, if it
tells that at all. -/
def Script.parse (dialect : Dialect) (text : String) (parser : Parser := .standard) :
    Except ParseError Script :=
  (parser.parse dialect text).mapError ParseError.ofMessage

end QueryLint.Sql
