/-!
# Floating-point numbers as words

A binary floating-point number is kept as its 64 bits, so that two numbers are equal exactly when
their words are. A finite one is `magnitude · 2 ^ power` with its sign; `ofDecimal` is the number
nearest to a decimal, and `scaled` the one reached from a whole number by a single multiplication
or division with a power of ten.
-/

namespace QueryLint.Decimal

/-- A 64-bit binary floating-point number. -/
structure Binary64 where
  bits : UInt64
  deriving DecidableEq, Repr, Inhabited

namespace Binary64

/-- The word of a machine number. -/
def ofFloat (x : Float) : Binary64 := ⟨x.toBits⟩

/-- The machine number of a word. -/
def toFloat (x : Binary64) : Float := Float.ofBits x.bits

/-- Whether the sign bit is set. -/
def isNegative (x : Binary64) : Bool := x.bits >>> 63 == 1

/-- The eleven bits of the exponent field. -/
def exponentField (x : Binary64) : Nat := (x.bits.toNat / 0x10000000000000) % 2048

/-- The fifty-two bits of the fraction field. -/
def fractionField (x : Binary64) : Nat := x.bits.toNat % 0x10000000000000

/-- Whether the number is neither infinite nor a NaN. -/
def isFinite (x : Binary64) : Bool := x.exponentField != 2047

/-- The whole number that the value is a multiple of a power of two of. -/
def magnitude (x : Binary64) : Nat :=
  if x.exponentField = 0 then x.fractionField else x.fractionField + 0x10000000000000

/-- The exponent of that power of two. -/
def power (x : Binary64) : Int :=
  if x.exponentField = 0 then -1074 else (x.exponentField : Int) - 1075

/-- Whether the next smaller number is nearer than the next larger one. -/
def isLowerCloser (x : Binary64) : Bool :=
  x.fractionField == 0 && 1 < x.exponentField

/-- The opposite number. -/
def negate (x : Binary64) : Binary64 := ⟨x.bits ^^^ 0x8000000000000000⟩

/-- The number zero, its sign bit clear. -/
def zero : Binary64 := ⟨0⟩

/-- The infinite number above all others. -/
def infinity : Binary64 := ⟨0x7FF0000000000000⟩

/-- A word that is no number. -/
def nan : Binary64 := ⟨0x7FF8000000000000⟩

/-- The number nearest to `digits · 10 ^ exponent`; too large a value is infinite. Values that are
beyond the range by far need no power of ten to be told. -/
def ofDecimal (digits : Nat) (exponent : Int) : Binary64 :=
  if digits = 0 then zero
  else if 310 < exponent then infinity
  else if (digits.log2 : Int) + 1 + 3 * exponent < -1100 then zero
  else ofFloat (Float.ofScientific digits (decide (exponent < 0)) exponent.natAbs)

/-- The power of ten nearest to `10 ^ exponent`. -/
def powerOfTen (exponent : Nat) : Float :=
  Float.ofScientific 1 false exponent

/-- Divides by the largest power of ten while the exponent is below what the powers cover. -/
def lowered (value : Float) (exponent : Nat) : Nat → Float
  | 0 => value
  | fuel + 1 =>
    if exponent ≤ 308 then value / powerOfTen exponent
    else if value == 0.0 then value
    else lowered (value / powerOfTen 308) (exponent - 308) fuel

/-- A whole number of 64 bits times a power of ten in one step of machine arithmetic: the result
may be one place off the nearest number, and it is nothing when it would be infinite. -/
def scaled? (significand : UInt64) (exponent : Int) : Option Binary64 :=
  let value := significand.toFloat
  if 0 ≤ exponent then
    if 308 < exponent then
      if value == 0.0 then some (ofFloat value) else none
    else
      let product := ofFloat (value * powerOfTen exponent.toNat)
      if product.isFinite then some product else none
  else some (ofFloat (lowered value exponent.natAbs (exponent.natAbs / 308 + 1)))

end Binary64

end QueryLint.Decimal
