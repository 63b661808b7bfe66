import QueryLint.Decimal.Shortest

/-!
# Written forms of floating-point numbers

The digits are the shortest that read back. `Binary64.positional` never uses an exponent;
`Binary64.compact` does where the point would stand more than sixteen digits to the right of the
first digit or more than five places to its left.
-/

namespace QueryLint.Decimal

/-- The digits of a natural number in base ten. -/
def decimalDigits (n : Nat) : List Char :=
  Nat.toDigits 10 n

/-- The digits of an integer in base ten, with a minus where it is negative. -/
def integerDigits (i : Int) : List Char :=
  if i < 0 then '-' :: decimalDigits i.natAbs else decimalDigits i.natAbs

/-- Digits with their point after the first `point` of them, and zeros where digits are missing. -/
def placePoint (digits : List Char) (point : Int) : List Char :=
  let zeros (n : Nat) : List Char := List.replicate n '0'
  if point ≤ 0 then '0' :: '.' :: zeros (-point).toNat ++ digits
  else if digits.length ≤ point.toNat then
    digits ++ zeros (point.toNat - digits.length) ++ ['.', '0']
  else digits.take point.toNat ++ '.' :: digits.drop point.toNat

/-- Digits with their point after the first of them, and an exponent with its sign. -/
def withExponent (digits : List Char) (point : Int) : List Char :=
  let exponent := point - 1
  let tail := (if exponent < 0 then ['e', '-'] else ['e', '+']) ++ decimalDigits exponent.natAbs
  match digits with
  | [] => tail
  | [d] => d :: tail
  | d :: more => d :: '.' :: more ++ tail

/-- The digits of the shortest decimal of a finite number and the place of its point. -/
def Binary64.digitsAndPoint (x : Binary64) : List Char × Int :=
  let d := x.shortest
  let digits := decimalDigits d.digits
  (digits, digits.length + d.exponent)

/-- A finite number with a point and no exponent. -/
def Binary64.positional (x : Binary64) : List Char :=
  let sign := if x.isNegative then ['-'] else []
  if x.magnitude = 0 then sign ++ ['0', '.', '0']
  else
    let (digits, point) := x.digitsAndPoint
    sign ++ placePoint digits point

/-- A finite number, with an exponent where it is very large or very small. -/
def Binary64.compact (x : Binary64) : List Char :=
  let sign := if x.isNegative then ['-'] else []
  if x.magnitude = 0 then sign ++ ['0', '.', '0']
  else
    let (digits, point) := x.digitsAndPoint
    if -5 < point && point ≤ 16 then sign ++ placePoint digits point
    else sign ++ withExponent digits point

end QueryLint.Decimal
