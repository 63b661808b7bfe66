import QueryLint.Decimal.Layout
import QueryLint.Json.Basic

/-!
# Writing TOML texts

The members of an object are written as a document. Members that hold no object come first, in their
order; every other one gets a header. Objects inside of arrays are written between braces, unless an
array holds nothing else: then each of its objects gets a header of its own. A text is written in the
plainest way that needs no escapes, if there is one.
-/

namespace QueryLint.Toml

/-! ## Texts -/

/-- A control character other than the tab and the end of a line. -/
def isControl (c : Char) : Bool :=
  (c.toNat < 32 && c ≠ '\t' && c ≠ '\n') || c.toNat = 127

/-- The length of the longest run of a character; `run` is the length of the one before the text. -/
def longestRun (c : Char) (run : Nat) : List Char → Nat
  | [] => run
  | d :: rest => if d = c then longestRun c (run + 1) rest else max run (longestRun c 0 rest)

/-- The digits of a number below 65536 in base sixteen, in capitals. -/
def fourDigits (n : Nat) : List Char :=
  let digit (k : Nat) : Char := (Nat.digitChar (n / Nat.pow 16 k % 16)).toUpper
  [digit 3, digit 2, digit 1, digit 0]

/-- A character that cannot stand for itself between double quotes. -/
def escape (c : Char) : List Char :=
  if c = '\x08' then ['\\', 'b']
  else if c = '\t' then ['\\', 't']
  else if c = '\n' then ['\\', 'n']
  else if c = '\x0c' then ['\\', 'f']
  else if c = '\r' then ['\\', 'r']
  else if c = '"' then ['\\', '"']
  else if c = '\\' then ['\\', '\\']
  else '\\' :: 'u' :: fourDigits c.toNat

/-- Whether a character stands for itself between double quotes wherever it is. -/
def isPlain (c : Char) : Bool :=
  c ≠ '"' && c ≠ '\\' && 32 ≤ c.toNat && c.toNat ≠ 127

/-- The characters of a text between double quotes. -/
def escapeAll (text : List Char) : List Char :=
  text.flatMap fun c => if isPlain c then [c] else escape c

/-- The characters of a text between three double quotes: ends of lines stand for themselves, and so
do quotes, but never three in a row. `quotes` is the number of quotes right before the text. -/
def escapeLong (quotes : Nat) : List Char → List Char
  | [] => []
  | c :: rest =>
    if c = '"' then
      if quotes < 2 then c :: escapeLong (quotes + 1) rest else escape c ++ escapeLong 0 rest
    else if isPlain c || c = '\n' then c :: escapeLong 0 rest
    else escape c ++ escapeLong 0 rest

/-- A text between double quotes. -/
def writeBasic (text : List Char) : List Char :=
  '"' :: escapeAll text ++ ['"']

/-- A text between single quotes. -/
def writeLiteral (text : List Char) : List Char :=
  '\'' :: text ++ ['\'']

/-- The end of a line before a text that has ends of lines. -/
def leadingLine (text : List Char) : List Char :=
  if text.contains '\n' then ['\n'] else []

/-- A text between three double quotes. -/
def writeLongBasic (text : List Char) : List Char :=
  ['"', '"', '"'] ++ leadingLine text ++ escapeLong 0 text ++ ['"', '"', '"']

/-- A text between three single quotes. -/
def writeLongLiteral (text : List Char) : List Char :=
  ['\'', '\'', '\''] ++ leadingLine text ++ text ++ ['\'', '\'', '\'']

/-- A text. -/
def writeText (text : List Char) : List Char :=
  let hasControl := text.any isControl
  let hasLines := text.contains '\n'
  let hasBackslash := text.contains '\\'
  let doubles := longestRun '"' 0 text
  let singles := longestRun '\'' 0 text
  if !hasControl && !hasBackslash && doubles = 0 && !hasLines then writeBasic text
  else if !hasControl && singles = 0 && !hasLines then writeLiteral text
  else if !hasControl && !hasBackslash && doubles ≤ 2 then writeLongBasic text
  else if !hasControl && singles ≤ 2 then writeLongLiteral text
  else if hasLines then writeLongBasic text
  else writeBasic text

/-- A character of a key that needs no quotes. -/
def isBareChar (c : Char) : Bool := c.isAlphanum || c = '_' || c = '-'

/-- A key. -/
def writeKey (key : String) : List Char :=
  let text := key.toList
  let hasControl := text.any fun c => isControl c || c = '\n'
  if !text.isEmpty && text.all isBareChar then text
  else if !hasControl && !text.contains '\\' && !text.contains '"' then writeBasic text
  else if !hasControl && !text.contains '\'' then writeLiteral text
  else writeBasic text

/-- The names of a header. -/
def writePath (path : List String) : List Char :=
  List.intercalate ['.'] (path.map writeKey)

/-! ## Values -/

/-- Items with a comma and a blank between them. -/
def separateItems (items : List (List Char)) : List Char :=
  List.intercalate [',', ' '] items

/-- A floating-point number. -/
def writeFloat (x : Decimal.Binary64) : List Char :=
  if x.isFinite then x.positional
  else if x.fractionField ≠ 0 then ['n', 'a', 'n']
  else if x.isNegative then ['-', 'i', 'n', 'f']
  else ['i', 'n', 'f']

mutual

/-- A value on one line; there is none for the missing value. -/
def writeValue : Json → List Char
  | .null => []
  | .bool true => ['t', 'r', 'u', 'e']
  | .bool false => ['f', 'a', 'l', 's', 'e']
  | .integer i => Decimal.integerDigits i
  | .float x => writeFloat x
  | .string s => writeText s.toList
  | .array items => '[' :: separateItems (writeItems items) ++ [']']
  | .object [] => ['\x7b', '\x7d']
  | .object members =>
    ['\x7b', ' '] ++ separateItems (writeMembers members) ++ [' ', '\x7d']

/-- The items of an array. -/
def writeItems : List Json → List (List Char)
  | [] => []
  | item :: rest => writeValue item :: writeItems rest

/-- The members of an object. -/
def writeMembers : List (String × Json) → List (List Char)
  | [] => []
  | (name, value) :: rest =>
    (writeKey name ++ [' ', '=', ' '] ++ writeValue value) :: writeMembers rest

end

/-! ## Documents -/

/-- Whether all of several values are objects. -/
def allObjects : List Json → Bool
  | [] => true
  | .object _ :: rest => allObjects rest
  | _ :: _ => false

/-- Whether a value gets a header, or several. -/
def hasHeader : Json → Bool
  | .object _ => true
  | .array items => !items.isEmpty && allObjects items
  | _ => false

/-- The lines of the members that get no header. -/
def writeLines : Json.Members → List Char
  | [] => []
  | (name, value) :: rest =>
    if hasHeader value then writeLines rest
    else writeKey name ++ [' ', '=', ' '] ++ writeValue value ++ '\n' :: writeLines rest

/-- The section of a table: its header and its lines. A table that only holds other tables is told by
their headers. -/
def writeSection (path : List String) (members : Json.Members) : List (List Char) :=
  let lines := writeLines members
  if lines.isEmpty && !members.isEmpty then []
  else [['['] ++ writePath path ++ [']', '\n'] ++ lines]

/-- The section of one of several tables that share a header. -/
def writeSharedSection (path : List String) (members : Json.Members) : List Char :=
  ['[', '['] ++ writePath path ++ [']', ']', '\n'] ++ writeLines members

mutual

/-- The sections of a value under a path, if it gets a header. -/
def sectionsOf (path : List String) : Json → List (List Char)
  | .object members => writeSection path members ++ sectionsIn path members
  | .array items => if !items.isEmpty && allObjects items then sharedSections path items else []
  | _ => []

/-- The sections of objects that share a path. -/
def sharedSections (path : List String) : List Json → List (List Char)
  | .object members :: rest =>
    writeSharedSection path members :: sectionsIn path members ++ sharedSections path rest
  | _ => []

/-- The sections of the members of an object. -/
def sectionsIn (path : List String) : List (String × Json) → List (List Char)
  | [] => []
  | (name, value) :: rest => sectionsOf (path ++ [name]) value ++ sectionsIn path rest

end

/-- Why a value cannot be written. -/
inductive Unwritable
  /-- The missing value. -/
  | null
  /-- A whole number of more than 63 bits. -/
  | tooLarge
  deriving DecidableEq, Repr

/-- What is said of a value that cannot be written. -/
def Unwritable.message : Unwritable → String
  | null => "unsupported unit type"
  | tooLarge => "out-of-range value for u64 type"

mutual

/-- The first thing inside a value that cannot be written, if there is one. -/
def unwritable? : Json → Option Unwritable
  | .null => some .null
  | .integer i => if i < 0x8000000000000000 then none else some .tooLarge
  | .array items => unwritableItem? items
  | .object members => unwritableMember? members
  | _ => none

/-- The first thing inside several values that cannot be written. -/
def unwritableItem? : List Json → Option Unwritable
  | [] => none
  | item :: rest => (unwritable? item).or (unwritableItem? rest)

/-- The first thing inside several members that cannot be written. -/
def unwritableMember? : List (String × Json) → Option Unwritable
  | [] => none
  | (_, value) :: rest => (unwritable? value).or (unwritableMember? rest)

end

/-- The text of a document: its own lines, then its sections, with an empty line before each section
but the first thing in the text. -/
def writeDocument (members : Json.Members) : List Char :=
  let lines := writeLines members
  let own := if lines.isEmpty then [] else [lines]
  List.intercalate ['\n'] (own ++ sectionsIn [] members)

/-- Writes the members of an object as a document. -/
def write (members : Json.Members) : Except Unwritable String :=
  match unwritableMember? members with
  | some reason => .error reason
  | none => .ok (String.ofList (writeDocument members))

end QueryLint.Toml
