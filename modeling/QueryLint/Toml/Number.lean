import QueryLint.Decimal.Binary64
import QueryLint.Toml.Quoted

/-!
# Numbers

Whole numbers in four bases and floating-point numbers. Digits may have single underscores between
them; a number in base ten does not begin with a zero unless it is zero.
-/

namespace QueryLint.Toml

open Reading Decimal

/-- More digits, with single underscores before some of them. -/
def readMoreDigits (isDigit : Char → Bool) : List Char → Reading (List Char × List Char)
  | [] => .ok ([], [])
  | '_' :: c :: rest =>
    if isDigit c then do
      let (more, rest) ← readMoreDigits isDigit rest
      .ok (c :: more, rest)
    else expecting ["digit"] (required (failAt (c :: rest)))
  | ['_'] => expecting ["digit"] (required (failAt []))
  | c :: rest =>
    if isDigit c then do
      let (more, rest) ← readMoreDigits isDigit rest
      .ok (c :: more, rest)
    else .ok ([], c :: rest)

/-- Digits, at least one of them. -/
def readDigits (isDigit : Char → Bool) (text : List Char) : Reading (List Char × List Char) :=
  match text with
  | c :: rest =>
    if isDigit c then do
      let (more, rest) ← readMoreDigits isDigit rest
      .ok (c :: more, rest)
    else failAt text
  | [] => failAt []

/-- Whether a number is negative, and what follows its sign. -/
def readSign : List Char → Bool × List Char
  | '-' :: rest => (true, rest)
  | '+' :: rest => (false, rest)
  | text => (false, text)

/-- A sign and the digits of a whole number in base ten. -/
def readWhole (text : List Char) : Reading ((Bool × List Char) × List Char) :=
  labelled "integer" do
    let (negative, digits) := readSign text
    match digits with
    | '0' :: rest => .ok ((negative, ['0']), rest)
    | _ =>
      let (digits, rest) ← readDigits Char.isDigit digits
      .ok ((negative, digits), rest)

/-- The value of digits in a base. -/
def digitsValue (base : Nat) (digits : List Char) : Nat :=
  digits.foldl (fun n c => base * n + (hexValue? c).getD 0) 0

/-- A whole number of 64 bits with a sign, written right at the start of the text. -/
def wholeNumber (negative : Bool) (n : Nat) (text rest : List Char) : Reading (Int × List Char) :=
  if negative then
    if n ≤ 0x8000000000000000 then .ok (-(n : Int), rest)
    else because "number too small to fit in target type" text
  else if n < 0x8000000000000000 then .ok (n, rest)
  else because "number too large to fit in target type" text

/-- A digit in a base of at most sixteen. -/
def isDigitIn (base : Nat) (c : Char) : Bool :=
  match hexValue? c with
  | some n => n < base
  | none => false

/-- A whole number behind the sign of its base. -/
def readBased (base : Nat) (name : String) (text rest : List Char) : Reading (Int × List Char) := do
  let (digits, rest) ← labelled (name ++ " integer") (readDigits (isDigitIn base) rest)
  wholeNumber false (digitsValue base digits) text rest

/-- A whole number. -/
def readInteger (text : List Char) : Reading (Int × List Char) :=
  match text with
  | '0' :: 'x' :: rest => required (readBased 16 "hexadecimal" text rest)
  | '0' :: 'o' :: rest => required (readBased 8 "octal" text rest)
  | '0' :: 'b' :: rest => required (readBased 2 "binary" text rest)
  | _ => do
    let ((negative, digits), rest) ← readWhole text
    required (wholeNumber negative (digitsValue 10 digits) text rest)

/-- The exponent of a floating-point number, its letter included. -/
def readExponent (text : List Char) : Reading (Int × List Char) :=
  match text with
  | c :: rest =>
    if c = 'e' || c = 'E' then do
      let (negative, rest) := readSign rest
      let (digits, rest) ← required (readDigits Char.isDigit rest)
      let n : Int := digitsValue 10 digits
      .ok (if negative then -n else n, rest)
    else failAt text
  | [] => failAt []

/-- The digits behind the point, the point included. -/
def readFraction (text : List Char) : Reading (List Char × List Char) :=
  match text with
  | '.' :: rest => expecting ["digit"] (required (readDigits Char.isDigit rest))
  | _ => failAt text

/-- The digits behind the point, if any, and the exponent; one of them has to be there. -/
def readFloatRest (text : List Char) : Reading ((List Char × Int) × List Char) :=
  orElse
    (do
      let (exponent, rest) ← readExponent text
      .ok (([], exponent), rest))
    (do
      let (fraction, rest) ← readFraction text
      let (exponent, rest) ← optional (readExponent rest) rest
      .ok ((fraction, exponent.getD 0), rest))

/-- The floating-point number with some digits; `text` is where it is written. -/
def floatOf (negative : Bool) (digits fraction : List Char) (exponent : Int)
    (text rest : List Char) : Reading (Binary64 × List Char) :=
  let x := Binary64.ofDecimal (digitsValue 10 (digits ++ fraction)) (exponent - fraction.length)
  if negative then .ok (x.negate, rest)
  else if x = Binary64.infinity then required (failAt text)
  else .ok (x, rest)

/-- One of the floating-point numbers that have no digits. -/
def readSpecialFloat (text : List Char) : Reading (Binary64 × List Char) :=
  let (negative, unsigned) := readSign text
  let signed (x : Binary64) : Binary64 := if negative then x.negate else x
  match unsigned with
  | 'i' :: 'n' :: 'f' :: rest => .ok (signed Binary64.infinity, rest)
  | 'n' :: 'a' :: 'n' :: rest => .ok (signed Binary64.nan, rest)
  | _ => failAt unsigned

/-- A floating-point number. -/
def readFloat (text : List Char) : Reading (Binary64 × List Char) :=
  labelled "floating-point number" (orElse
    (do
      let ((negative, digits), rest) ← readWhole text
      let ((fraction, exponent), rest) ← readFloatRest rest
      floatOf negative digits fraction exponent text rest)
    (readSpecialFloat text))

end QueryLint.Toml
