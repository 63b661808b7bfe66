/-!
# Quoted stretches of a line

A stretch opens with a single or double quote and closes with the same quote. Inside it a quote
right after a backslash is taken as text as long as a later quote can close the stretch; when none
can, the last such quote closes it after all. A quote that nothing closes hides nothing.
-/

namespace QueryLint.Text

/-- The two characters that open a quoted stretch. -/
def isQuote (c : Char) : Bool :=
  c = '\'' || c = '"'

/-- The number of characters up to and with the closing quote of a stretch whose opening quote was
passed; `escaped` says whether the last character passed is a backslash inside the stretch. -/
def closing? (quote : Char) (escaped : Bool) : List Char → Option Nat
  | [] => none
  | c :: rest =>
    if c = quote then
      if escaped then some ((closing? quote false rest).getD 0 + 1) else some 1
    else (closing? quote (c = '\\') rest).map (· + 1)

/-- A half-open interval of character offsets. -/
structure Stretch where
  start : Nat
  stop : Nat
  deriving DecidableEq, Repr

/-- Whether the offset lies in the interval. -/
def Stretch.contains (s : Stretch) (offset : Nat) : Bool :=
  s.start ≤ offset && offset < s.stop

/-- The quoted stretches from an offset on, the next `skip` characters being part of one already
found. -/
def quotedFrom (skip offset : Nat) : List Char → List Stretch
  | [] => []
  | c :: rest =>
    match skip with
    | skip + 1 => quotedFrom skip (offset + 1) rest
    | 0 =>
      if isQuote c then
        match closing? c false rest with
        | some n => ⟨offset, offset + 1 + n⟩ :: quotedFrom n (offset + 1) rest
        | none => quotedFrom 0 (offset + 1) rest
      else quotedFrom 0 (offset + 1) rest

/-- The quoted stretches of a line, left to right, as offsets in characters. -/
def quotedStretches (line : List Char) : List Stretch :=
  quotedFrom 0 0 line

end QueryLint.Text
