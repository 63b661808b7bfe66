import QueryLint.Text.Escaped

/-!
# Values of the wrong shape

Configurations and reports are read from values that may hold anything. A `Mismatch` says how a
value failed to be what was wanted; its message does not depend on the notation it was read from.
-/

namespace QueryLint

/-- What was found where something else was expected. A floating-point number carries its text. -/
inductive Found
  | null
  | bool (value : Bool)
  | integer (value : Int)
  | float (written : String)
  | string (value : String)
  | sequence
  | map
  deriving DecidableEq, Repr

/-- The name of what was found. -/
def Found.describe : Found → String
  | .null => "null"
  | .bool true => "boolean \x60true\x60"
  | .bool false => "boolean \x60false\x60"
  | .integer i => "integer \x60" ++ toString i ++ "\x60"
  | .float written => "floating point \x60" ++ written ++ "\x60"
  | .string s => "string " ++ Text.escaped s
  | .sequence => "sequence"
  | .map => "map"

/-- The ways in which a value is not what was wanted. -/
inductive Mismatch
  /-- The value is of another kind. -/
  | kind (found : Found) (expected : String)
  /-- The value is of the right kind but not admitted. -/
  | value (found : Found) (expected : String)
  /-- A sequence has the wrong number of items. -/
  | length (count : Nat) (expected : String)
  /-- A required field is absent. -/
  | missing (field : String)
  /-- A field is given twice. -/
  | duplicate (field : String)
  /-- A name is none of those known. -/
  | variant (name : String) (known : List String)
  deriving DecidableEq, Repr

/-- A name between grave accents. -/
def ticked (name : String) : String :=
  "\x60" ++ name ++ "\x60"

/-- The text of a mismatch. -/
def Mismatch.message : Mismatch → String
  | .kind found expected => "invalid type: " ++ found.describe ++ ", expected " ++ expected
  | .value found expected => "invalid value: " ++ found.describe ++ ", expected " ++ expected
  | .length count expected => "invalid length " ++ toString count ++ ", expected " ++ expected
  | .missing field => "missing field " ++ ticked field
  | .duplicate field => "duplicate field " ++ ticked field
  | .variant name known =>
    "unknown variant " ++ ticked name ++ ", expected one of "
      ++ String.intercalate ", " (known.map ticked)

end QueryLint
