import QueryLint.Toml.DateTime
import QueryLint.Toml.Document

/-!
# Reading TOML texts

Values are read with a bound on how many arrays and tables between braces may be open at once. A
document is read line by line into a draft, so that of two things that are wrong the first one is
reported, whether it is the notation or a name that is taken.
-/

namespace QueryLint.Toml

open Reading

/-- How many arrays and tables between braces may be open at once, and how many names a key may
have. -/
def maxDepth : Nat := 79

/-- What is said of too deep a nesting. -/
def tooDeep : String := "recursion limit exceeded"

/-- A character of a key without quotes. -/
def isBare (c : Char) : Bool := c.isAlphanum || c = '_' || c = '-'

/-- The stretch between two rests of a text. -/
def between (text rest : List Char) : Stretch := ⟨Text.byteCount text, Text.byteCount rest⟩

/-- One name of a key. -/
def readName (text : List Char) : Reading (Key × List Char) := do
  let (name, rest) ← match text with
    | '"' :: rest => readBasic (rest.length + 1) rest
    | '\'' :: rest => readLiteral rest
    | _ =>
      let name := text.takeWhile isBare
      if name.isEmpty then failAt text else .ok (name, text.dropWhile isBare)
  .ok (⟨String.ofList name, between text rest⟩, rest)

/-- The names of a key, with points between them. -/
def readNames : Nat → List Char → Reading (List Key × List Char)
  | 0, text => failAt text
  | fuel + 1, text => do
    let (name, rest) ← readName (skipBlanks text)
    match skipBlanks rest with
    | '.' :: behind =>
      match readNames fuel behind with
      | .ok (names, rest) => .ok (name :: names, rest)
      | .error f => if f.soft then .ok ([name], '.' :: behind) else .error f
    | rest => .ok ([name], rest)

/-- A key: the names before its last one, and that. -/
def readKey (text : List Char) : Reading ((List Key × Key) × List Char) := do
  let (names, rest) ← labelled "key" (readNames (text.length + 1) text)
  if maxDepth < names.length then because tooDeep text
  else
    match names.getLast? with
    | some last => .ok ((names.dropLast, last), rest)
    | none => failAt text

/-- What is said where no value begins. -/
def noValue {α : Type} (text : List Char) : Reading α :=
  expecting (["\"", "'"].map ticked) (labelled "string" (failAt text))

/-- A value that is one of a few words. -/
def readWord (word : String) (node : Node) (text : List Char) : Reading (Node × List Char) :=
  if word.toList.isPrefixOf text then .ok (node, text.drop word.length) else noValue text

/-- A date, a time or a number. -/
def readNumeral (text : List Char) : Reading (Node × List Char) :=
  let as {α : Type} (node : α → Node) (r : Reading (α × List Char)) : Reading (Node × List Char) :=
    r.map fun (x, rest) => (node x, rest)
  orElse (as (fun t => .dateTime (String.ofList t)) (readDateTime text))
    (orElse (as .float (readFloat text)) (as .integer (readInteger text)))

/-- A value that holds no other. -/
def readScalar (text : List Char) : Reading (Node × List Char) :=
  match text with
  | [] => failAt []
  | c :: _ =>
    if c = '"' || c = '\'' then do
      let (s, rest) ← readText text
      .ok (.string (String.ofList s), rest)
    else if c = '+' || c = '-' || c.isDigit then readNumeral text
    else if c = '_' then
      expecting ["leading digit"] do
        let (i, rest) ← readInteger text
        .ok (.integer i, rest)
    else if c = '.' then
      expecting ["leading digit"] do
        let (x, rest) ← readFloat text
        .ok (.float x, rest)
    else if c = 't' then required (readWord "true" (.boolean true) text)
    else if c = 'f' then required (readWord "false" (.boolean false) text)
    else if c = 'i' then readWord "inf" (.float Decimal.Binary64.infinity) text
    else if c = 'n' then readWord "nan" (.float Decimal.Binary64.nan) text
    else noValue text

/-- Items of an array up to the first one that is none; behind an item there may be a comma. -/
def readItems (value : List Char → Reading (Item × List Char)) :
    Nat → List Char → Reading (List Item × List Char)
  | 0, text => .ok ([], text)
  | fuel + 1, text =>
    let item : Reading (Item × List Char) := do
      let (item, rest) ← value (← skipGap (text.length + 1) text)
      .ok (item, ← skipGap (rest.length + 1) rest)
    match item with
    | .error f => if f.soft then .ok ([], text) else .error f
    | .ok (item, ',' :: rest) => do
      let (items, rest) ← readItems value fuel rest
      .ok (item :: items, rest)
    | .ok (item, rest) => .ok ([item], rest)

/-- The items of an array, and its closing bracket; the opening one is passed. -/
def readArray (value : List Char → Reading (Item × List Char)) (text : List Char) :
    Reading (List Item × List Char) :=
  required do
    let (items, rest) ← match text with
      | ']' :: _ => .ok ([], text)
      | _ => do
        let (items, rest) ← readItems value (text.length + 1) text
        .ok (items, ← skipGap (rest.length + 1) rest)
    match rest with
    | ']' :: rest => .ok (items, rest)
    | _ => expecting [ticked "]"] (labelled "array" (failAt rest))

/-- A key and its value, with the sign between them. -/
def readAssignment (value : List Char → Reading (Item × List Char)) (text : List Char) :
    Reading (((List Key × Key) × Item) × List Char) := do
  let (key, rest) ← readKey text
  match rest with
  | '=' :: rest => do
    let (item, rest) ← required (value (skipBlanks rest))
    .ok ((key, item), rest)
  | _ => expecting ([".", "="].map ticked) (required (failAt rest))

/-- The assignments of a table between braces, up to the first that is none. -/
def readMembers (value : List Char → Reading (Item × List Char)) :
    Nat → List Char → Reading (List ((List Key × Key) × Item) × List Char)
  | 0, text => .ok ([], text)
  | fuel + 1, text =>
    match readAssignment value text with
    | .error f => if f.soft then .ok ([], text) else .error f
    | .ok (member, rest) =>
      match skipBlanks rest with
      | ',' :: behind => do
        let (members, rest) ← readMembers value fuel behind
        if members.isEmpty then .ok ([member], ',' :: behind) else .ok (member :: members, rest)
      | rest => .ok ([member], rest)

/-- The table of some assignments. -/
def inlineTable (members : List ((List Key × Key) × Item)) : Except Clash Table :=
  members.foldlM (fun table ((path, key), item) => Table.assign true none path key item table)
    ⟨false, false, none, []⟩

/-- A table between braces, the opening one being passed. -/
def readInlineTable (value : List Char → Reading (Item × List Char)) (text : List Char) :
    Reading (Table × List Char) :=
  required do
    let (members, rest) ← readMembers value (text.length + 1) text
    match inlineTable members with
    | .error clash => because clash.message text
    | .ok table =>
      match skipBlanks rest with
      | '\x7d' :: rest => .ok (table, rest)
      | rest => expecting [ticked "\x7d"] (labelled "inline table" (failAt rest))

/-- A value, with so many more arrays and tables inside each other. -/
def readValue : Nat → List Char → Reading (Item × List Char)
  | depth, text => do
    let (node, rest) ← match depth, text with
      | 0, '[' :: _ => required (because tooDeep text)
      | 0, '\x7b' :: _ => required (because tooDeep text)
      | depth + 1, '[' :: rest => do
        let (items, rest) ← readArray (readValue depth) rest
        .ok (Node.array items, rest)
      | depth + 1, '\x7b' :: rest => do
        let (table, rest) ← readInlineTable (readValue depth) rest
        .ok (Node.inlineTable table, rest)
      | _, _ => readScalar text
    .ok (⟨node, some (between text rest)⟩, rest)

/-- Lets a clash count where the text is. -/
def settled (text : List Char) (r : Except Clash Draft) : Reading Draft :=
  match r with
  | .ok draft => .ok draft
  | .error clash => because clash.message text

/-- The rest of a line behind something that may not be followed by anything else. -/
def readEnd (text : List Char) : Reading (List Char) :=
  expecting ["newline", ticked "#"] (required (readLineRest text))

/-- A header behind its first bracket or brackets. -/
def readHeader (draft : Draft) (several : Bool) (text behind : List Char) :
    Reading (Draft × List Char) :=
  labelled "table header" do
    let ((path, key), rest) ← required (readKey behind)
    let closing := if several then "]]" else "]"
    if closing.toList.isPrefixOf rest then
      let rest := rest.drop closing.length
      let stretch := between text rest
      let rest ← readEnd rest
      .ok (← settled text (draft.enter several path key stretch), rest)
    else expecting [ticked ".", ticked closing] (required (failAt rest))

/-- A key and its value on a line of their own. -/
def readLine (draft : Draft) (text : List Char) : Reading (Draft × List Char) := do
  let (((path, key), item), rest) ← readAssignment (readValue maxDepth) text
  let rest ← readEnd rest
  .ok (← settled text (draft.assign path key item), rest)

/-- The lines of a document. -/
def readLines : Nat → Draft → List Char → Reading Draft
  | 0, draft, _ => .ok draft
  | fuel + 1, draft, text =>
    let text := skipBlanks text
    let read : Reading (Draft × List Char) :=
      match text with
      | [] => .ok (draft, [])
      | '#' :: rest => do
        let rest ← readLineEnd (skipComment rest)
        .ok (draft, rest)
      | '\n' :: rest => .ok (draft, rest)
      | '\r' :: '\n' :: rest => .ok (draft, rest)
      | '\r' :: _ => failAt text
      | ['['] => labelled "table header" (failAt text)
      | '[' :: '[' :: rest => readHeader draft true text rest
      | '[' :: rest => readHeader draft false text rest
      | _ => readLine draft text
    match read with
    | .error f => .error f
    | .ok (draft, []) => .ok draft
    | .ok (draft, rest) => readLines fuel draft rest

/-- The root of the document that a text writes. A mark of the byte order may stand before it. -/
def parse (text : List Char) : Reading Table := do
  let body := match text with
    | '\ufeff' :: rest => rest
    | _ => text
  let draft ← readLines (body.length + 1) (Draft.start (Text.byteCount text)) body
  .ok draft.root

end QueryLint.Toml
