import QueryLint.Decimal.Binary64
import QueryLint.Json.Basic

/-!
# TOML documents

A document is a table, and so is what a header or braces enclose. A table remembers whether it was
only implied by a longer name, and whether that name was a dotted key, because such a table may still
be given its own header or further keys. Where something was written is kept as bytes that follow its
first character and its last one.
-/

namespace QueryLint.Toml

/-- A stretch of a text: the bytes that follow its start and its end. -/
structure Stretch where
  start : Nat
  stop : Nat
  deriving DecidableEq, Repr

/-- A key and where it was written. -/
structure Key where
  name : String
  stretch : Stretch
  deriving DecidableEq, Repr

mutual

/-- A value or a table. -/
inductive Node
  | string (text : String)
  | integer (value : Int)
  | float (value : Decimal.Binary64)
  | boolean (value : Bool)
  | dateTime (text : String)
  | array (items : List Item)
  /-- A table between braces, or implied inside of one. -/
  | inlineTable (table : Table)
  /-- A table with a header, or implied by one. -/
  | table (table : Table)
  /-- The tables that share a header. -/
  | tables (items : List Table)

/-- A value or a table and where it was written, if it was. -/
structure Item where
  node : Node
  stretch? : Option Stretch

/-- Entries by key. -/
structure Table where
  /-- Whether the table is only implied by a longer name. -/
  isImplicit : Bool
  /-- Whether that name is a dotted key. -/
  isDotted : Bool
  stretch? : Option Stretch
  entries : List Entry

/-- A key and what it stands for. -/
structure Entry where
  key : Key
  item : Item

end

/-- Why something cannot be added to a document. -/
inductive Clash
  /-- The name is taken, in a table whose name may be known. -/
  | duplicate (name : String) (table : Option (List String))
  /-- A name goes through something that is no table. -/
  | notTable (path : List String) (kind : String)
  deriving DecidableEq, Repr

/-- The text of a clash. -/
def Clash.message : Clash → String
  | .duplicate name none => "duplicate key \x60" ++ name ++ "\x60"
  | .duplicate name (some []) => "duplicate key \x60" ++ name ++ "\x60 in document root"
  | .duplicate name (some path) =>
    "duplicate key \x60" ++ name ++ "\x60 in table \x60" ++ String.intercalate "." path ++ "\x60"
  | .notTable path kind =>
    "dotted key \x60" ++ String.intercalate "." path
      ++ "\x60 attempted to extend non-table type (" ++ kind ++ ")"

/-- The kind of a node. -/
def Node.kind : Node → String
  | .string _ => "string"
  | .integer _ => "integer"
  | .float _ => "float"
  | .boolean _ => "boolean"
  | .dateTime _ => "datetime"
  | .array _ => "array"
  | .inlineTable _ => "inline table"
  | .table _ => "table"
  | .tables _ => "array of tables"

namespace Table

/-- The table without entries that a name implies. -/
def implied (dotted : Bool) : Table := ⟨true, dotted, none, []⟩

/-- What a name stands for. -/
def find? (table : Table) (name : String) : Option Item :=
  (table.entries.find? fun e => e.key.name == name).map Entry.item

/-- Adds an entry at the end. -/
def push (table : Table) (key : Key) (item : Item) : Table :=
  { table with entries := table.entries ++ [⟨key, item⟩] }

/-- Takes an entry out. -/
def erase (table : Table) (name : String) : Table :=
  { table with entries := table.entries.filter fun e => e.key.name != name }

/-- Puts something else in the place of an entry. -/
def replace (table : Table) (name : String) (item : Item) : Table :=
  { table with
    entries := table.entries.map fun e => if e.key.name == name then { e with item } else e }

/-- Moves the end of a table's stretch. -/
def extended (table : Table) (stop : Nat) : Table :=
  { table with stretch? := table.stretch?.map fun s => { s with stop } }

/-- The table of a node that a name may go through; of tables with one header, the last. -/
def ofNode? (inBraces : Bool) : Node → Option Table
  | .table t => if inBraces then none else some t
  | .inlineTable t => if inBraces then some t else none
  | .tables ts => if inBraces then none else ts.getLast?
  | _ => none

/-- Whether a node is a table by itself. -/
def isSingle : Node → Bool
  | .tables _ => false
  | _ => true

/-- A node with another table in the place of the one that a name goes through. -/
def within (node : Node) (t : Table) : Node :=
  match node with
  | .tables ts => .tables (ts.dropLast ++ [t])
  | .inlineTable _ => .inlineTable t
  | _ => .table t

/-- Changes the table that is reached by a path, implying tables that are not there. A dotted key
does not go through a table that was written out. -/
def modify (inBraces dotted : Bool) (change : Table → Except Clash Table) (passed : List String) :
    List Key → Table → Except Clash Table
  | [], table => change table
  | key :: path, table =>
    let passed := passed ++ [key.name]
    match table.find? key.name with
    | none => do
      let child ← modify inBraces dotted change passed path (implied dotted)
      let node : Node := if inBraces then .inlineTable child else .table child
      .ok (table.push key ⟨node, none⟩)
    | some item =>
      match ofNode? inBraces item.node with
      | none => .error (.notTable passed item.node.kind)
      | some child =>
        if dotted && isSingle item.node && !child.isImplicit then
          .error (.duplicate key.name none)
        else do
          let child ← modify inBraces dotted change passed path child
          .ok (table.replace key.name { item with node := within item.node child })

/-- Adds a value under a dotted key; `name` is the name of the table, where it is known. -/
def assign (inBraces : Bool) (name : Option (List String)) (path : List Key) (key : Key)
    (item : Item) (table : Table) : Except Clash Table :=
  let add (t : Table) : Except Clash Table :=
    if t.isDotted == path.isEmpty then .error (.duplicate key.name none)
    else if (t.find? key.name).isSome then .error (.duplicate key.name name)
    else .ok (t.push key item)
  modify inBraces (!path.isEmpty) add [] path table

/-- Adds the table of a header. A table that was only implied by longer headers is taken over, and
moves to the end. -/
def open_ (names : List String) (key : Key) (stretch : Stretch) (parent : Table) :
    Except Clash Table :=
  match parent.find? key.name with
  | none => .ok (parent.push key ⟨.table ⟨false, false, some stretch, []⟩, none⟩)
  | some item =>
    match item.node with
    | .table t =>
      if t.isImplicit && !t.isDotted then
        let t := { t with isImplicit := false, stretch? := some stretch }
        .ok ((parent.erase key.name).push key ⟨.table t, none⟩)
      else .error (.duplicate key.name (some names))
    | _ => .error (.duplicate key.name (some names))

/-- Adds another table to those of one header. -/
def append (names : List String) (key : Key) (stretch : Stretch) (parent : Table) :
    Except Clash Table :=
  let fresh : Table := ⟨false, false, some stretch, []⟩
  match parent.find? key.name with
  | none => .ok (parent.push key ⟨.tables [fresh], none⟩)
  | some item =>
    match item.node with
    | .tables ts => .ok (parent.replace key.name { item with node := .tables (ts ++ [fresh]) })
    | _ => .error (.duplicate key.name (some names))

end Table

/-- Where something was written; what shares a header goes from the first table to the last. -/
def Item.place? (item : Item) : Option Stretch :=
  match item.node with
  | .table t => t.stretch?
  | .tables ts => do
    let first ← ts.head?
    let last ← ts.getLast?
    return ⟨(← first.stretch?).start, (← last.stretch?).stop⟩
  | _ => item.stretch?

/-- A document that is being read: what was read so far, and the path of the last header. -/
structure Draft where
  root : Table
  path : List Key

namespace Draft

/-- The draft of a text of so many bytes before anything is read. -/
def start (bytes : Nat) : Draft := ⟨⟨false, false, some ⟨bytes, bytes⟩, []⟩, []⟩

/-- The names of the last header. -/
def names (draft : Draft) : List String := draft.path.map Key.name

/-- Adds a value under a dotted key to the table of the last header. -/
def assign (draft : Draft) (path : List Key) (key : Key) (item : Item) : Except Clash Draft := do
  let stop := (item.stretch?.map Stretch.stop).getD 0
  let add (t : Table) : Except Clash Table :=
    Table.assign false (some draft.names) path key item (t.extended stop)
  let root ← Table.modify false false add [] draft.path draft.root
  .ok { draft with root }

/-- Begins the table of a header, which may be one of several. -/
def enter (draft : Draft) (several : Bool) (path : List Key) (key : Key) (stretch : Stretch) :
    Except Clash Draft := do
  let names := path.map Key.name
  let add := if several then Table.append names key stretch else Table.open_ names key stretch
  let root ← Table.modify false false add [] path draft.root
  .ok ⟨root, path ++ [key]⟩

end Draft

mutual

/-- The value of a node: dates and times are objects of one member, and numbers that have no digits
are left out. -/
def Node.toJson : Node → Json
  | .string s => .string s
  | .integer i => .integer i
  | .float x => if x.isFinite then .float x else .null
  | .boolean b => .bool b
  | .dateTime text => .object [("$__toml_private_datetime", .string text)]
  | .array items => .array (itemsToJson items)
  | .inlineTable t => t.toJson
  | .table t => t.toJson
  | .tables ts => .array (tablesToJson ts)

/-- The value of an item. -/
def Item.toJson : Item → Json
  | ⟨node, _⟩ => node.toJson

/-- The value of a table. -/
def Table.toJson : Table → Json
  | ⟨_, _, _, entries⟩ => .object (Json.ofMembers (entriesToJson entries))

/-- The members of an object from the entries of a table, in their order. -/
def entriesToJson : List Entry → Json.Members
  | [] => []
  | ⟨key, item⟩ :: rest => (key.name, item.toJson) :: entriesToJson rest

/-- The values of several items. -/
def itemsToJson : List Item → List Json
  | [] => []
  | i :: rest => i.toJson :: itemsToJson rest

/-- The values of several tables. -/
def tablesToJson : List Table → List Json
  | [] => []
  | t :: rest => t.toJson :: tablesToJson rest

end

end QueryLint.Toml
