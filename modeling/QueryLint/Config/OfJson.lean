import QueryLint.Config.Basic
import QueryLint.Json.Skip

/-!
# Configurations from JSON

A configuration is an object whose members may come in any order, or an array of the three fields.
The text is read once from left to right, and the first thing that is wrong with it is reported,
whether it is the notation or a value of the wrong kind. Members that are not fields are passed
over.
-/

namespace QueryLint.Config

open Json

/-- Whatever stands where a value of another kind was expected. A scalar is read to its end first;
a container is not entered. -/
def unexpected {α : Type} (expected : String) (text : List Char) : Reading (α × List Char) :=
  match skipSpaces text with
  | '[' :: rest => failBefore (.mismatch (.kind .sequence expected)) ('[' :: rest)
  | '\x7b' :: rest => failBefore (.mismatch (.kind .map expected)) ('\x7b' :: rest)
  | text => do
    let (value, rest) ← readValue 0 text
    let found : Found := match value with
      | .null => .null
      | .bool b => .bool b
      | .integer i => .integer i
      | .float x => .float (String.ofList x.compact)
      | .string s => .string s
      | .array _ => .sequence
      | .object _ => .map
    failBefore (.mismatch (.kind found expected)) rest

/-- A string. -/
def readText (expected : String) (text : List Char) : Reading (String × List Char) :=
  match skipSpaces text with
  | '"' :: rest => readString rest
  | [] => failAt .endInValue []
  | text => unexpected expected text

/-- A dialect, by name. -/
def readDialectName (expected : String) (text : List Char) : Reading (Dialect × List Char) := do
  let (name, rest) ← readText expected text
  match Dialect.ofName? name with
  | some dialect => .ok (dialect, rest)
  | none => failBefore (.mismatch (Dialect.unknownVariant name)) rest

/-- A dialect or nothing: a name, or an object with the name as its member. -/
def readDialect (text : List Char) : Reading (Option Dialect × List Char) :=
  match skipSpaces text with
  | [] => failAt .endInValue []
  | 'n' :: rest => do
    let (_, rest) ← readWord ['u', 'l', 'l'] rest
    .ok (none, rest)
  | '"' :: rest => do
    let (dialect, rest) ← readDialectName "variant identifier" ('"' :: rest)
    .ok (some dialect, rest)
  | '\x7b' :: rest => do
    let (dialect, rest) ← readDialectName "variant identifier" rest
    let rest ← readColon rest
    let rest ← match skipSpaces rest with
      | [] => failAt .endInValue []
      | 'n' :: rest => do
        let (_, rest) ← readWord ['u', 'l', 'l'] rest
        .ok rest
      | rest => do
        let (_, rest) ← unexpected (α := Unit) "unit" rest
        .ok rest
    match skipSpaces rest with
    | '\x7d' :: rest => .ok (some dialect, rest)
    | [] => failBefore .endInObject []
    | rest => failBefore .expectedValue rest
  | rest => failAt .expectedValue rest

/-- The patterns of paths. -/
def readPatterns (text : List Char) : Reading (List String × List Char) :=
  match skipSpaces text with
  | [] => failAt .endInValue []
  | '[' :: rest => readItems (readText "a string") true (rest.length + 1) rest
  | text => unexpected "a sequence" text

/-- The settings of the rules. -/
def readRules (text : List Char) : Reading (Settings × List Char) :=
  match skipSpaces text with
  | [] => failAt .endInValue []
  | '\x7b' :: rest =>
    let member (rules : Settings) (name : String) (text : List Char) :
        Reading (Settings × List Char) := do
      let text ← readColon text
      let (value, text) ← readValue (maxDepth - 2) text
      .ok (Settings.set name (Setting.ofJson value) rules, text)
    readMembers member true (rest.length + 1) [] rest
  | text => unexpected "a map" text

/-- The fields that were given so far. -/
structure Draft where
  dialect : Option (Option Dialect) := none
  ignorePatterns : Option (List String) := none
  rules : Option Settings := none

/-- A field that was given before; the brace that follows its name, if any, is passed. -/
def repeated {α : Type} (name : String) (text : List Char) : Reading (α × List Char) :=
  let rest := match skipSpaces text with
    | '\x7d' :: rest => rest
    | rest => rest
  failBefore (.mismatch (.duplicate name)) rest

/-- One member of a configuration. -/
def readField (draft : Draft) (name : String) (text : List Char) :
    Reading (Draft × List Char) :=
  match name with
  | "dialect" =>
    if draft.dialect.isSome then repeated name text else do
      let text ← readColon text
      let (value, text) ← readDialect text
      .ok ({ draft with dialect := some value }, text)
  | "ignorePatterns" =>
    if draft.ignorePatterns.isSome then repeated name text else do
      let text ← readColon text
      let (value, text) ← readPatterns text
      .ok ({ draft with ignorePatterns := some value }, text)
  | "rules" =>
    if draft.rules.isSome then repeated name text else do
      let text ← readColon text
      let (value, text) ← readRules text
      .ok ({ draft with rules := some value }, text)
  | _ => do
    let text ← readColon text
    let text ← skipValue text
    .ok (draft, text)

/-- The configuration whose fields were given, all of them or all but the first ones. -/
def Draft.config? (draft : Draft) : Option Config :=
  draft.rules.map fun rules =>
    ⟨draft.dialect.getD none, draft.ignorePatterns.getD [], rules⟩

/-- An array of the three fields, behind its bracket. -/
def readFields (text : List Char) : Reading (Config × List Char) := do
  let short {α : Type} (text : List Char) : Reading (α × List Char) :=
    failBefore (.mismatch (.length 2 "struct Config with 3 elements")) (text.drop 1)
  let (more, text) ← nextItem true text
  if !more then short text else
  let (dialect, text) ← readDialect text
  let (more, text) ← nextItem false text
  if !more then short text else
  let (patterns, text) ← readPatterns text
  let (more, text) ← nextItem false text
  if !more then short text else
  let (rules, text) ← readRules text
  match skipSpaces text with
  | ']' :: rest => .ok (⟨dialect, patterns, rules⟩, rest)
  | ',' :: rest =>
    match skipSpaces rest with
    | ']' :: rest => failAt .trailingComma (']' :: rest)
    | rest => failAt .trailingCharacters rest
  | [] => failAt .endInList []
  | rest => failAt .trailingCharacters rest

/-- A configuration. -/
def readConfig (text : List Char) : Reading (Config × List Char) :=
  match skipSpaces text with
  | [] => failAt .endInValue []
  | '[' :: rest => readFields rest
  | '\x7b' :: rest => do
    let (draft, rest) ← readMembers readField true (rest.length + 1) {} rest
    match draft.config? with
    | some config => .ok (config, rest)
    | none => failBefore (.mismatch (.missing "rules")) rest
  | text => unexpected "struct Config" text

/-- The configuration that a whole text writes. -/
def ofJsonText (text : String) : Reading Config := do
  let (config, rest) ← readConfig text.toList
  readEnd rest
  .ok config

end QueryLint.Config
