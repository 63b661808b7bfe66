import QueryLint.Text.Bytes

/-!
# Failures of reading TOML

A failure says what was being read, what would have been possible, and why it went wrong, as far as
that is known, and where it was noticed: by the number of bytes that follow. A failure is soft as
long as nothing but the thing itself was tried; then something else may stand in its place, as the
end of an array may stand in the place of an item.
-/

namespace QueryLint.Toml

/-- Why a text is not the TOML that was wanted. -/
structure Failure where
  soft : Bool
  /-- What was being read. -/
  label : Option String := none
  /-- What would have been possible. -/
  expected : List String := []
  /-- What went wrong with a thing that was read. -/
  cause : Option String := none
  /-- The number of bytes after the place. -/
  left : Nat
  deriving DecidableEq, Repr

/-- The text of a failure, one line for each thing that is known. -/
def Failure.message (f : Failure) : String :=
  let label := f.label.map fun l => "invalid " ++ l
  let expected :=
    if f.expected.isEmpty then none else some ("expected " ++ String.intercalate ", " f.expected)
  String.intercalate "\n" (label.toList ++ expected.toList ++ f.cause.toList)

/-- Reading that may fail. -/
abbrev Reading := Except Failure

namespace Reading

variable {α : Type}

/-- A failure right before the rest of the text. -/
def failAt (rest : List Char) : Reading α :=
  .error { soft := true, left := Text.byteCount rest }

/-- A failure that has a cause. -/
def because (cause : String) (rest : List Char) : Reading α :=
  .error { soft := true, cause := some cause, left := Text.byteCount rest }

/-- Says what was being read; the innermost thing counts. -/
def labelled (label : String) (r : Reading α) : Reading α :=
  r.mapError fun f => { f with label := f.label <|> some label }

/-- Says what else would have been possible. -/
def expecting (what : List String) (r : Reading α) : Reading α :=
  r.mapError fun f => { f with expected := f.expected ++ what }

/-- Reading that has to succeed. -/
def required (r : Reading α) : Reading α :=
  r.mapError fun f => { f with soft := false }

/-- Reading that may be left out: nothing is read where it fails softly. -/
def optional (r : Reading (α × List Char)) (text : List Char) : Reading (Option α × List Char) :=
  match r with
  | .ok (x, rest) => .ok (some x, rest)
  | .error f => if f.soft then .ok (none, text) else .error f

/-- Tries something else where reading fails softly. -/
def orElse (first second : Reading α) : Reading α :=
  match first with
  | .ok x => .ok x
  | .error f => if f.soft then second else .error f

end Reading

/-- A thing that may be written, for messages. -/
def ticked (symbol : String) : String := "\x60" ++ symbol ++ "\x60"

end QueryLint.Toml
