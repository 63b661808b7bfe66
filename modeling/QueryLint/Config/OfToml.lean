import QueryLint.Config.Basic
import QueryLint.Decimal.Layout
import QueryLint.Toml.Excerpt
import QueryLint.Toml.Reader

/-!
# Configurations from TOML

The whole text is read as a document first. Then the fields are looked at in the order of the
document, and the first value of the wrong kind is reported at its place. Other entries are passed
over.
-/

namespace QueryLint.Config

open Toml

/-- What a node is in messages. -/
def foundIn : Node → Found
  | .string s => .string s
  | .integer i => .integer i
  | .float x =>
    .float (
      if x.isFinite then String.ofList x.positional
      else if x.fractionField ≠ 0 then "NaN"
      else if x.isNegative then "-inf"
      else "inf")
  | .boolean b => .bool b
  | .array _ => .sequence
  | .tables _ => .sequence
  | _ => .map

/-- A reason about an item; an item that was not written stands where its key stands. -/
def wrong {α : Type} (reason : String) (key : Key) (item : Item) : Except Fault α :=
  .error ⟨reason, item.place?.getD key.stretch⟩

/-- An item of the wrong kind. -/
def wrongKind {α : Type} (expected : String) (key : Key) (item : Item) : Except Fault α :=
  wrong (Mismatch.kind (foundIn item.node) expected).message key item

/-- The dialect that a table names by its one entry, whose value has to be an empty table. -/
def dialectOfEntries (key : Key) (item : Item) (entries : List Entry) : Except Fault Dialect :=
  match entries with
  | [] => wrong "wanted exactly 1 element, found 0 elements" key item
  | [⟨name, value⟩] =>
    match Dialect.ofName? name.name with
    | none => .error ⟨(Dialect.unknownVariant name.name).message, name.stretch⟩
    | some dialect =>
      let empty (holds : Bool) : Except Fault Dialect :=
        if holds then wrong "expected empty table" name value else .ok dialect
      match value.node with
      | .table t => empty !t.entries.isEmpty
      | .inlineTable t => empty !t.entries.isEmpty
      | .array items => empty !items.isEmpty
      | .tables items => empty !items.isEmpty
      | node => wrong ("expected table, found " ++ node.kind) name value
  | _ => wrong "wanted exactly 1 element, more than 1 element" key item

/-- A dialect: a name, or a table with the name as its entry. -/
def dialectOf (key : Key) (item : Item) : Except Fault Dialect :=
  match item.node with
  | .string name =>
    match Dialect.ofName? name with
    | some dialect => .ok dialect
    | none => wrong (Dialect.unknownVariant name).message key item
  | .table t => dialectOfEntries key item t.entries
  | .inlineTable t => dialectOfEntries key item t.entries
  | _ => wrong "wanted string or table" key item

/-- A pattern of paths. -/
def patternOf (key : Key) (item : Item) : Except Fault String :=
  match item.node with
  | .string s => .ok s
  | _ => wrongKind "a string" key item

/-- The patterns of paths. -/
def patternsOf (key : Key) (item : Item) : Except Fault (List String) :=
  match item.node with
  | .array items => items.mapM (patternOf key)
  | .tables ts => (ts.map fun t => ⟨.table t, none⟩).mapM (patternOf key)
  | _ => wrongKind "a sequence" key item

/-- The settings of entries. -/
def settingsOf (entries : List Entry) : Settings :=
  entries.map fun ⟨key, item⟩ => (key.name, Setting.ofJson item.toJson)

/-- The settings of the rules. A date or a time is read as its one member. -/
def rulesOf (key : Key) (item : Item) : Except Fault Settings :=
  match item.node with
  | .table t => .ok (settingsOf t.entries)
  | .inlineTable t => .ok (settingsOf t.entries)
  | .dateTime text => .ok [("$__toml_private_datetime", .level text)]
  | _ => wrongKind "a map" key item

/-- The configuration of the entries of a document, after what was found before them. -/
def ofEntries (root : Stretch) (config : Config) (hasRules : Bool) :
    List Entry → Except Fault Config
  | [] =>
    if hasRules then .ok config else .error ⟨(Mismatch.missing "rules").message, root⟩
  | ⟨key, item⟩ :: rest =>
    match key.name with
    | "dialect" => do
      ofEntries root { config with dialect? := some (← dialectOf key item) } hasRules rest
    | "ignorePatterns" => do
      ofEntries root { config with ignorePatterns := ← patternsOf key item } hasRules rest
    | "rules" => do ofEntries root { config with rules := ← rulesOf key item } true rest
    | _ => ofEntries root config hasRules rest

/-- The configuration that a whole text writes. -/
def ofTomlText (text : String) : Except Fault Config :=
  match Toml.parse text.toList with
  | .error f => .error (f.fault text.toList)
  | .ok root => ofEntries (root.stretch?.getD ⟨0, 0⟩) {} false root.entries

end QueryLint.Config
