import QueryLint.Sql.Spelling

/-!
# Writing statements back

Every statement has one written form: keywords in capitals, one blank between parts, a comma and a
blank between items, and names and literals as they were. All aliases are written with `AS`.
-/

namespace QueryLint.Sql

mutual

/-- The written form of an expression. -/
def Expr.render : Expr → String
  | .name parts => ObjectName.spell parts
  | .star => "*"
  | .starOf table => ObjectName.spell table ++ ".*"
  | .literal value => value.spell
  | .typed type text => type ++ " " ++ text.spell
  | .unary op operand => op ++ operand.render
  | .binary left op right => left.render ++ " " ++ op ++ " " ++ right.render
  | .quantified left op quantifier right =>
    left.render ++ " " ++ op ++ " " ++ quantifier
      ++ (match right with
        | .subquery _ => right.render
        | _ => "(" ++ right.render ++ ")")
  | .test operand words => operand.render ++ " " ++ words
  | .distinctFrom left negated right =>
    left.render ++ " IS " ++ negation negated ++ "DISTINCT FROM " ++ right.render
  | .between operand negated low high =>
    operand.render ++ " " ++ negation negated ++ "BETWEEN " ++ low.render ++ " AND "
      ++ high.render
  | .inList operand negated items =>
    operand.render ++ " " ++ negation negated ++ "IN (" ++ commaSeparated (renderAll items) ++ ")"
  | .inQuery operand negated query =>
    operand.render ++ " " ++ negation negated ++ "IN (" ++ query.render ++ ")"
  | .like operand negated op pattern escape =>
    operand.render ++ " " ++ negation negated ++ op ++ " " ++ pattern.render
      ++ (match escape with
        | none => ""
        | some c => " ESCAPE '" ++ c ++ "'")
  | .cast .doubleColon operand type => operand.render ++ "::" ++ type
  | .cast .cast operand type => "CAST(" ++ operand.render ++ " AS " ++ type ++ ")"
  | .cast .tryCast operand type => "TRY_CAST(" ++ operand.render ++ " AS " ++ type ++ ")"
  | .cast .safeCast operand type => "SAFE_CAST(" ++ operand.render ++ " AS " ++ type ++ ")"
  | .nested operand => "(" ++ operand.render ++ ")"
  | .tuple items => "(" ++ commaSeparated (renderAll items) ++ ")"
  | .subquery query => "(" ++ query.render ++ ")"
  | .exists negated query => negation negated ++ "EXISTS (" ++ query.render ++ ")"
  | .case operand conditions results otherwise =>
    "CASE" ++ renderOptional " " operand
      ++ String.join (List.zipWith (fun c r => " WHEN " ++ c ++ " THEN " ++ r)
        (renderAll conditions) (renderAll results))
      ++ renderOptional " ELSE " otherwise ++ " END"
  | .call function => function.render
  | .array named items =>
    (if named then "ARRAY[" else "[") ++ commaSeparated (renderAll items) ++ "]"
  | .arrayOf query => "ARRAY(" ++ query.render ++ ")"
  | .index operand position => operand.render ++ "[" ++ position.render ++ "]"
  | .collate operand collation => operand.render ++ " COLLATE " ++ ObjectName.spell collation
  | .phrase pieces => String.join (renderPieces pieces)

/-- The written forms of several expressions. -/
def renderAll : List Expr → List String
  | [] => []
  | e :: rest => e.render :: renderAll rest

/-- The written form of an expression that may be missing, after some text. -/
def renderOptional (before : String) : Option Expr → String
  | none => ""
  | some e => before ++ e.render

/-- An expression with its surroundings. -/
def Piece.render : Piece → String
  | ⟨before, e, after⟩ => before ++ e.render ++ after

/-- The written forms of several pieces. -/
def renderPieces : List Piece → List String
  | [] => []
  | p :: rest => p.render :: renderPieces rest

/-- A part of the syntax without a form of its own. -/
def Clause.render : Clause → String
  | ⟨pieces, ending⟩ => String.join (renderPieces pieces) ++ ending

/-- A call of a function. -/
def Call.render : Call → String
  | ⟨name, parenthesized, treatment, args, clauses, ending, within, filter, nulls, window⟩ =>
    let arguments :=
      treatment ++ commaSeparated (renderPieces args)
        ++ (if clauses.isEmpty && ending.isEmpty || args.isEmpty then "" else " ")
        ++ String.join (renderPieces clauses) ++ ending
    ObjectName.spell name ++ (if parenthesized then "(" ++ arguments ++ ")" else "")
      ++ (if within.isEmpty then ""
        else " WITHIN GROUP (ORDER BY " ++ commaSeparated (renderPieces within) ++ ")")
      ++ (match filter with
        | none => ""
        | some e => " FILTER (WHERE " ++ e.render ++ ")")
      ++ nulls ++ window.render

/-- The rows that a function looks at. -/
def Window.render : Window → String
  | .none => ""
  | .named name => " OVER " ++ name.spell
  | .spec base partition order frame =>
    let parts :=
      (base.map Ident.spell).toList
        ++ (if partition.isEmpty then []
          else ["PARTITION BY " ++ commaSeparated (renderAll partition)])
        ++ (if order.isEmpty then [] else ["ORDER BY " ++ commaSeparated (renderPieces order)])
        ++ (if frame.isEmpty then [] else [frame.render])
    " OVER (" ++ String.intercalate " " parts ++ ")"

/-- A query. -/
def Query.render : Query → String
  | ⟨recursive, ctes, body, order, limit, offset, offsetRows, ending⟩ =>
    (if ctes.isEmpty then ""
      else (if recursive then "WITH RECURSIVE " else "WITH ") ++ commaSeparated (renderCtes ctes)
        ++ " ")
      ++ body.render
      ++ (if order.isEmpty then "" else " ORDER BY " ++ commaSeparated (renderPieces order))
      ++ renderOptional " LIMIT " limit ++ renderOptional " OFFSET " offset ++ offsetRows
      ++ ending.render

/-- A query with a name. -/
def Cte.render : Cte → String
  | ⟨label, materialized, query, source⟩ =>
    label.spell ++ " AS " ++ materialized ++ "(" ++ query.render ++ ")"
      ++ (match source with
        | none => ""
        | some name => " FROM " ++ name.spell)

/-- Queries with names. -/
def renderCtes : List Cte → List String
  | [] => []
  | c :: rest => c.render :: renderCtes rest

/-- The body of a query. -/
def Body.render : Body → String
  | .select select => select.render
  | .query query => "(" ++ query.render ++ ")"
  | .setOperation left op quantifier right =>
    left.render ++ " " ++ op.spell ++ quantifier ++ " " ++ right.render
  | .values withRow rows =>
    let word := if withRow then "ROW" else ""
    "VALUES " ++ commaSeparated ((renderAll rows).map fun row => word ++ row)
  | .table name => "TABLE " ++ name
  | .insert insertion => insertion.render
  | .update update => update.render

/-- A selection. -/
def Select.render : Select → String
  | ⟨_, distinct, distinctOn, top, items, into, froms, views, filter, group, groupEnding, having,
      ending⟩ =>
    "SELECT"
      ++ (if !distinctOn.isEmpty then
          " DISTINCT ON (" ++ commaSeparated (renderAll distinctOn) ++ ")"
        else if distinct then " DISTINCT" else "")
      ++ String.join (renderPieces top)
      ++ " " ++ commaSeparated (renderItems items) ++ into
      ++ (if froms.isEmpty then "" else " FROM " ++ commaSeparated (renderRelations froms))
      ++ views.render ++ renderOptional " WHERE " filter
      ++ (if group.isEmpty then ""
        else " GROUP BY " ++ commaSeparated (renderAll group))
      ++ groupEnding.render ++ renderOptional " HAVING " having ++ ending.render

/-- A column of a selection. -/
def SelectItem.render : SelectItem → String
  | .expr e none => e.render
  | .expr e (some label) => e.render ++ " AS " ++ label.spell
  | .star _ options => "*" ++ options.render
  | .starOf table _ options => ObjectName.spell table ++ ".*" ++ options.render

/-- The columns of a selection. -/
def renderItems : List SelectItem → List String
  | [] => []
  | i :: rest => i.render :: renderItems rest

/-- A table factor with all that is joined to it. -/
def Relation.render : Relation → String
  | ⟨factor, joins⟩ => factor.render ++ String.join (renderJoins joins)

/-- The relations of a list. -/
def renderRelations : List Relation → List String
  | [] => []
  | r :: rest => r.render :: renderRelations rest

/-- A joined table factor. -/
def Join.render : Join → String
  | ⟨words, factor, condition, columns⟩ =>
    " " ++ words ++ " " ++ factor.render ++ renderOptional " ON " condition
      ++ (if columns.isEmpty then ""
        else " USING(" ++ commaSeparated (columns.map Ident.spell) ++ ")")

/-- The joined factors of a relation. -/
def renderJoins : List Join → List String
  | [] => []
  | j :: rest => j.render :: renderJoins rest

/-- A table or what stands for one. -/
def Factor.render : Factor → String
  | .table name called args ordinality label ending =>
    ObjectName.spell name
      ++ (if called then "(" ++ commaSeparated (renderPieces args) ++ ")" else "")
      ++ (if ordinality then " WITH ORDINALITY" else "") ++ aliasSuffix label ++ ending.render
  | .derived lateral query label =>
    (if lateral then "LATERAL " else "") ++ "(" ++ query.render ++ ")" ++ aliasSuffix label
  | .function lateral name args label =>
    (if lateral then "LATERAL " else "") ++ ObjectName.spell name ++ "("
      ++ commaSeparated (renderPieces args) ++ ")" ++ aliasSuffix label
  | .tableOf e label => "TABLE(" ++ e.render ++ ")" ++ aliasSuffix label
  | .unnest arrays ordinality label ending =>
    "UNNEST(" ++ commaSeparated (renderAll arrays) ++ ")"
      ++ (if ordinality then " WITH ORDINALITY" else "") ++ aliasSuffix label ++ ending
  | .jsonTable document path columns label =>
    "JSON_TABLE(" ++ document.render ++ ", " ++ path ++ " COLUMNS(" ++ columns ++ "))"
      ++ aliasSuffix label
  | .openJson document path columns label =>
    "OPENJSON(" ++ document.render ++ path ++ ")" ++ columns ++ aliasSuffix label
  | .nested relation label => "(" ++ relation.render ++ ")" ++ aliasSuffix label
  | .pivot operand aggregates column source ending label =>
    operand.render ++ " PIVOT(" ++ commaSeparated (renderPieces aggregates) ++ " FOR "
      ++ ObjectName.spell column ++ " IN (" ++ source.render ++ ")" ++ ending.render
      ++ ")"
      ++ aliasSuffix label
  | .unpivot operand value name columns label =>
    operand.render ++ " UNPIVOT(" ++ value.spell ++ " FOR " ++ name.spell ++ " IN ("
      ++ commaSeparated (columns.map Ident.spell) ++ "))" ++ aliasSuffix label
  | .matchRecognize operand partition order measures pattern definitions label =>
    operand.render ++ " MATCH_RECOGNIZE("
      ++ (if partition.isEmpty then ""
        else "PARTITION BY " ++ commaSeparated (renderAll partition) ++ " ")
      ++ (if order.isEmpty then ""
        else "ORDER BY " ++ commaSeparated (renderPieces order) ++ " ")
      ++ (if measures.isEmpty then ""
        else "MEASURES " ++ commaSeparated (renderPieces measures) ++ " ")
      ++ pattern ++ " DEFINE " ++ commaSeparated (renderPieces definitions) ++ ")"
      ++ aliasSuffix label

/-- The values that a pivot turns into columns. -/
def PivotSource.render : PivotSource → String
  | .list values => commaSeparated (renderPieces values)
  | .any order =>
    if order.isEmpty then "ANY"
    else "ANY ORDER BY " ++ commaSeparated (renderPieces order)
  | .subquery query => query.render

/-- An insertion of rows. -/
def Insertion.render : Insertion → String
  | ⟨head, source, assignments, conflict, returning⟩ =>
    head.render
      ++ (match source with
        | none => ""
        | some query => query.render)
      ++ (if assignments.isEmpty then ""
        else "SET " ++ commaSeparated (renderPieces assignments))
      ++ conflict.render
      ++ (if returning.isEmpty then ""
        else " RETURNING " ++ commaSeparated (renderItems returning))

/-- A change of rows. -/
def Update.render : Update → String
  | ⟨head, target, assignments, froms, filter, returning⟩ =>
    head ++ target.render
      ++ (if assignments.isEmpty then ""
        else " SET " ++ commaSeparated (renderPieces assignments))
      ++ (if froms.isEmpty then "" else " FROM " ++ commaSeparated (renderRelations froms))
      ++ renderOptional " WHERE " filter
      ++ (if returning.isEmpty then ""
        else " RETURNING " ++ commaSeparated (renderItems returning))

end

/-- A removal of rows. -/
def Delete.render (d : Delete) : String :=
  "DELETE "
    ++ (if d.tables.isEmpty then ""
      else commaSeparated (d.tables.map ObjectName.spell) ++ " ")
    ++ (if d.hasFrom then "FROM " else "") ++ commaSeparated (renderRelations d.froms)
    ++ (if d.usings.isEmpty then "" else " USING " ++ commaSeparated (renderRelations d.usings))
    ++ renderOptional " WHERE " d.filter
    ++ (if d.returning.isEmpty then ""
      else " RETURNING " ++ commaSeparated (renderItems d.returning))
    ++ (if d.order.isEmpty then "" else " ORDER BY " ++ commaSeparated (renderPieces d.order))
    ++ renderOptional " LIMIT " d.limit

/-- A definition of a table. -/
def TableDefinition.render (t : TableDefinition) : String :=
  t.head
    ++ (if t.elements.isEmpty then if t.query.isNone then " ()" else ""
      else " (" ++ commaSeparated (t.elements.map Clause.render) ++ ")")
    ++ t.options.render
    ++ (match t.query with
      | none => ""
      | some query => " AS " ++ query.render)

mutual

/-- The written form of a statement. -/
def Statement.render : Statement → String
  | .query q => q.render
  | .insert i => i.render
  | .update u => u.render
  | .delete d => d.render
  | .createTable table => table.render
  | .createView head q ending => head.render ++ q.render ++ ending.render
  | .alterTable head operations =>
    head ++ commaSeparated (operations.map Clause.render)
  | .commit chain => if chain then "COMMIT AND CHAIN" else "COMMIT"
  | .words clause => clause.render
  | .explain head inner => head.render ++ inner.render
  | .block head statements =>
    head.render ++ " AS BEGIN " ++ String.intercalate "; " (renderStatements statements) ++ " END"

/-- The written forms of several statements. -/
def renderStatements : List Statement → List String
  | [] => []
  | s :: rest => s.render :: renderStatements rest

end

end QueryLint.Sql
