import QueryLint.Json.Literal

/-!
# Reading JSON texts

`nextItem` and `nextKey` decide what follows inside a container; `readItems` and `readMembers` run
over one with a reader for what it holds, and `readValue` reads any value. A container costs one
unit of the depth that is left, and at depth zero no container is entered.
-/

namespace QueryLint.Json

variable {α σ : Type}

/-- How many containers may be open at once. -/
def maxDepth : Nat := 127

/-- Whether another item of an array follows. The rest starts with it, or else with the closing
bracket. -/
def nextItem (first : Bool) (text : List Char) : Reading (Bool × List Char) :=
  match skipSpaces text with
  | [] => failAt .endInList []
  | ']' :: rest => .ok (false, ']' :: rest)
  | c :: rest =>
    if first then .ok (true, c :: rest)
    else if c = ',' then
      match skipSpaces rest with
      | [] => failAt .endInValue []
      | ']' :: rest => failAt .trailingComma (']' :: rest)
      | item => .ok (true, item)
    else failAt .expectedListCommaOrEnd (c :: rest)

/-- Whether another member of an object follows. The rest starts with its name, or else with the
closing brace. -/
def nextKey (first : Bool) (text : List Char) : Reading (Bool × List Char) :=
  match skipSpaces text with
  | [] => failAt .endInObject []
  | '\x7d' :: rest => .ok (false, '\x7d' :: rest)
  | c :: rest =>
    if first then
      if c = '"' then .ok (true, c :: rest) else failAt .keyMustBeString (c :: rest)
    else if c = ',' then
      match skipSpaces rest with
      | [] => failAt .endInValue []
      | '"' :: rest => .ok (true, '"' :: rest)
      | '\x7d' :: rest => failAt .trailingComma ('\x7d' :: rest)
      | other => failAt .keyMustBeString other
    else failAt .expectedObjectCommaOrEnd (c :: rest)

/-- The colon between a name and its value. -/
def readColon (text : List Char) : Reading (List Char) :=
  match skipSpaces text with
  | [] => failAt .endInObject []
  | ':' :: rest => .ok rest
  | other => failAt .expectedColon other

/-- The items of an array whose bracket was passed, up to and with the closing one. -/
def readItems (item : List Char → Reading (α × List Char)) (first : Bool) :
    Nat → List Char → Reading (List α × List Char)
  | 0, text => failAt .endInList text
  | fuel + 1, text => do
    let (more, text) ← nextItem first text
    if more then
      let (x, text) ← item text
      let (xs, text) ← readItems item false fuel text
      .ok (x :: xs, text)
    else .ok ([], text.drop 1)

/-- The members of an object whose brace was passed, up to and with the closing one. `member` is
given what was gathered so far, the name of a member and the text behind the name. -/
def readMembers (member : σ → String → List Char → Reading (σ × List Char)) (first : Bool) :
    Nat → σ → List Char → Reading (σ × List Char)
  | 0, _, text => failAt .endInObject text
  | fuel + 1, state, text => do
    let (more, text) ← nextKey first text
    if more then
      let (name, text) ← readString (text.drop 1)
      let (state, text) ← member state name text
      readMembers member false fuel state text
    else .ok (state, text.drop 1)

/-- Any value. -/
def readValue (depth : Nat) (text : List Char) : Reading (Json × List Char) :=
  match skipSpaces text with
  | [] => failAt .endInValue []
  | 'n' :: rest => do
    let (_, rest) ← readWord ['u', 'l', 'l'] rest
    .ok (.null, rest)
  | 't' :: rest => do
    let (_, rest) ← readWord ['r', 'u', 'e'] rest
    .ok (.bool true, rest)
  | 'f' :: rest => do
    let (_, rest) ← readWord ['a', 'l', 's', 'e'] rest
    .ok (.bool false, rest)
  | '-' :: rest => readNumber true rest
  | '"' :: rest => do
    let (s, rest) ← readString rest
    .ok (.string s, rest)
  | '[' :: rest =>
    match depth with
    | 0 => failAt .recursionLimit ('[' :: rest)
    | depth + 1 => do
      let (items, rest) ← readItems (readValue depth) true (rest.length + 1) rest
      .ok (.array items, rest)
  | '\x7b' :: rest =>
    match depth with
    | 0 => failAt .recursionLimit ('\x7b' :: rest)
    | depth + 1 => do
      let member (members : Members) (name : String) (text : List Char) :
          Reading (Members × List Char) := do
        let text ← readColon text
        let (value, text) ← readValue depth text
        .ok (insertMember name value members, text)
      let (members, rest) ← readMembers member true (rest.length + 1) [] rest
      .ok (.object members, rest)
  | c :: rest =>
    if c.isDigit then readNumber false (c :: rest) else failAt .expectedValue (c :: rest)

/-- Nothing but blanks. -/
def readEnd (text : List Char) : Reading Unit :=
  match skipSpaces text with
  | [] => .ok ()
  | rest => failAt .trailingCharacters rest

/-- The value that a whole text writes. -/
def parse (text : String) : Reading Json := do
  let (value, rest) ← readValue maxDepth text.toList
  readEnd rest
  .ok value

end QueryLint.Json
