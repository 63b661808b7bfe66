import QueryLint.Rule.Basic
import QueryLint.Sql.Node.Preorder
import QueryLint.Sql.Selects

/-!
# Aliases of tables

The alias of a table is to say what the table is, and not to be longer than it has to be. The rule
looks at the tables of selections and at those that rows are removed from, joined ones and operands of
table operators included. What a table is made of is reported before the table itself. The issues have
no position.
-/

namespace QueryLint.TableAlias

open Sql

/-- The name of the rule. -/
def name : String := "table-alias"

/-- What the rule is for. -/
def description : String := "Enforce meaningful table aliases"

/-- The fewest characters of a good alias. -/
def minLength : Nat := 2

/-- The most characters of a good alias. -/
def maxLength : Nat := 30

/-- Whether an alias is too short or too long. An empty alias is none at all. -/
def isBad (label : String) : Bool :=
  let length := label.length
  (1 ≤ length && length < minLength) || maxLength < length

/-- What is said of a bad alias. -/
def message (label : String) : String :=
  "Table alias \"" ++ label ++ "\" should be meaningful and between " ++ toString minLength ++ "-"
    ++ toString maxLength ++ " characters"

/-- The issue of a bad alias. -/
def issueOf (label : String) : Issue :=
  { rule := name, severity := .info, message := message label }

/-- The issue of an alias, if it is bad. -/
def checkAlias (label : Option Sql.TableAlias) : List Issue :=
  ((label.map fun a => a.name.text).toList.filter isBad).map issueOf

mutual

/-- The issues of a table factor: those of what it is made of, then its own. -/
def checkFactor : Factor → List Issue
  | .table _ _ _ _ label _ => checkAlias label
  | .derived _ _ label => checkAlias label
  | .function _ _ _ label => checkAlias label
  | .tableOf _ label => checkAlias label
  | .unnest _ _ label _ => checkAlias label
  | .jsonTable _ _ _ label => checkAlias label
  | .openJson _ _ _ label => checkAlias label
  | .nested relation label => checkRelation relation ++ checkAlias label
  | .pivot operand _ _ _ _ label => checkFactor operand ++ checkAlias label
  | .unpivot operand _ _ _ label => checkFactor operand ++ checkAlias label
  | .matchRecognize operand _ _ _ _ _ label => checkFactor operand ++ checkAlias label

/-- The issues of a relation: those of its table factor, then those of the joined ones. -/
def checkRelation : Relation → List Issue
  | ⟨factor, joins⟩ => checkFactor factor ++ checkJoins joins

/-- The issues of joined table factors. -/
def checkJoins : List Join → List Issue
  | [] => []
  | ⟨_, factor, _, _⟩ :: rest => checkFactor factor ++ checkJoins rest

end

/-- The issues of a list of tables. -/
def checkTables (tables : List Relation) : List Issue :=
  tables.flatMap checkRelation

/-- The issues of a node itself, without what it holds. -/
def enter : Node → List Issue
  | .query q => q.selects.flatMap fun s => checkTables s.froms
  | .statement (.delete d) => checkTables d.froms ++ checkTables d.usings
  | _ => []

/-- The issues of statements. -/
def check (script : Script) : List Issue :=
  script.flatMap fun s => s.nodes.flatMap enter

/-- The rule. -/
def rule : Rule := { name, description, severity := .info, check := fun script _ => check script }

end QueryLint.TableAlias
