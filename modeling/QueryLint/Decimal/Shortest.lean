import QueryLint.Decimal.Binary64

/-!
# The shortest decimal that reads back

A positive finite number is surrounded by the interval of the reals that round to it. Of the
decimals in it the one with the fewest digits is taken, and of those the nearest. All tests are in
natural numbers: the value and the ends of the interval are fractions over one denominator.
-/

namespace QueryLint.Decimal

/-- A decimal `digits · 10 ^ exponent`. -/
structure Scientific where
  digits : Nat
  exponent : Int
  deriving DecidableEq, Repr

/-- A value and the ends of the interval that rounds to it, over one denominator. -/
structure Surrounded where
  low : Nat
  value : Nat
  high : Nat
  denominator : Nat
  closed : Bool

/-- The interval of a positive number. -/
def Binary64.surrounded (x : Binary64) : Surrounded :=
  let quarters := 4 * x.magnitude
  let lower := quarters - (if x.isLowerCloser then 1 else 2)
  let upper := quarters + 2
  let power := x.power - 2
  let scale := Nat.pow 2 power.toNat
  ⟨lower * scale, quarters * scale, upper * scale, Nat.pow 2 (-power).toNat, x.magnitude % 2 == 0⟩

/-- The interval times a power of ten. -/
def Surrounded.shifted (s : Surrounded) (places : Int) : Surrounded :=
  let up := Nat.pow 10 places.toNat
  ⟨s.low * up, s.value * up, s.high * up, s.denominator * Nat.pow 10 (-places).toNat, s.closed⟩

/-- Whether a whole number lies in the interval. -/
def Surrounded.contains (s : Surrounded) (n : Nat) : Bool :=
  let point := n * s.denominator
  if s.closed then s.low ≤ point && point ≤ s.high else s.low < point && point < s.high

/-- The whole number of the interval nearest to the value; of two at one distance the even one. -/
def Surrounded.nearest? (s : Surrounded) : Option Nat :=
  let below := s.value / s.denominator
  let above := below + 1
  match s.contains below && below != 0, s.contains above with
  | false, false => none
  | true, false => some below
  | false, true => some above
  | true, true =>
    let down := s.value - below * s.denominator
    let up := above * s.denominator - s.value
    if down < up then some below
    else if up < down then some above
    else if below % 2 = 0 then some below else some above

/-- The number of zeros that follow the point of a fraction below one. -/
def leadingZeros (denominator value : Nat) : Nat → Nat
  | 0 => 0
  | fuel + 1 =>
    if denominator ≤ value * 10 then 0 else leadingZeros denominator (value * 10) fuel + 1

/-- The number of digits before the point of a value of at least one; otherwise minus the number of
zeros that follow the point. -/
def Surrounded.leading (s : Surrounded) : Int :=
  let whole := s.value / s.denominator
  if 0 < whole then (Nat.toDigits 10 whole).length
  else -(leadingZeros s.denominator s.value 400 : Int)

/-- Moves the zeros at the end of the digits into the exponent. -/
def Scientific.trimmed (d : Scientific) : Nat → Scientific
  | 0 => d
  | fuel + 1 =>
    if d.digits % 10 = 0 && d.digits != 0 then
      Scientific.trimmed ⟨d.digits / 10, d.exponent + 1⟩ fuel
    else d

/-- The first number of digits, from `count` on, with which some decimal lies in the interval. -/
def shortestFrom (s : Surrounded) (leading : Int) (count : Nat) : Nat → Scientific
  | 0 => ⟨s.value / s.denominator, 0⟩
  | fuel + 1 =>
    let places := (count : Int) - leading
    match (s.shifted places).nearest? with
    | some digits => Scientific.trimmed ⟨digits, -places⟩ 20
    | none => shortestFrom s leading (count + 1) fuel

/-- The shortest decimal of a positive finite number. -/
def Binary64.shortest (x : Binary64) : Scientific :=
  let s := x.surrounded
  shortestFrom s s.leading 1 17

end QueryLint.Decimal
