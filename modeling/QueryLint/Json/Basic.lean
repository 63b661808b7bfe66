import QueryLint.Decimal.Binary64

/-!
# JSON values

The values that rule options and reports are made of. An object that was read holds its members
sorted by name with every name once (`ofMembers`); one that is only written keeps the order in which
it was built. Numbers are whole numbers or floating-point numbers, and the two never equal each
other.
-/

namespace QueryLint

/-- A JSON value. -/
inductive Json
  | null
  | bool (value : Bool)
  | integer (value : Int)
  | float (value : Decimal.Binary64)
  | string (value : String)
  | array (items : List Json)
  | object (members : List (String × Json))
  deriving Inhabited

namespace Json

/-- Members of an object, in order. -/
abbrev Members := List (String × Json)

/-- Puts a member in its place by name; a member of that name is replaced. -/
def insertMember (name : String) (value : Json) : Members → Members
  | [] => [(name, value)]
  | (other, old) :: rest =>
    if name < other then (name, value) :: (other, old) :: rest
    else if name = other then (name, value) :: rest
    else (other, old) :: insertMember name value rest

/-- The object with the given members: of one name the last value counts. -/
def ofMembers (members : Members) : Members :=
  members.foldl (fun sorted (name, value) => insertMember name value sorted) []

/-- The value of a member. -/
def member? (name : String) (members : Members) : Option Json :=
  members.lookup name

/-- The text of a string value. -/
def string? : Json → Option String
  | .string s => some s
  | _ => none

/-- The members of an object value. -/
def object? : Json → Option Members
  | .object members => some members
  | _ => none

mutual

/-- Whether two values are the same. -/
def same : Json → Json → Bool
  | .null, .null => true
  | .bool a, .bool b => a == b
  | .integer a, .integer b => a == b
  | .float a, .float b => a == b
  | .string a, .string b => a == b
  | .array as, .array bs => sameItems as bs
  | .object as, .object bs => sameMembers as bs
  | _, _ => false

/-- Whether two lists of values are the same. -/
def sameItems : List Json → List Json → Bool
  | [], [] => true
  | a :: as, b :: bs => same a b && sameItems as bs
  | _, _ => false

/-- Whether two lists of members are the same. -/
def sameMembers : List (String × Json) → List (String × Json) → Bool
  | [], [] => true
  | (m, a) :: as, (n, b) :: bs => m == n && same a b && sameMembers as bs
  | _, _ => false

end

instance : BEq Json := ⟨same⟩

end Json

end QueryLint
