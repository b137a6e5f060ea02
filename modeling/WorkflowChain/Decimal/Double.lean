import WorkflowChain.Decimal.Fraction

/-! # Double precision numbers

A floating point number is kept as its 64 bits, so that two numbers are equal exactly
when they are the same number with the same sign. Every operation computes the exact size first and
then rounds it to the nearest number, ties to the even one.
-/

namespace WorkflowChain.Decimal

/-- A double precision number, given by its bits. -/
structure Double where
  /-- Sign, exponent and fraction, from the highest bit to the lowest. -/
  bits : UInt64
  deriving DecidableEq, Repr

namespace Double

/-! ## Parts -/

/-- Whether the sign bit is set. -/
def isNegative (x : Double) : Bool := x.bits.toNat ≥ 0x8000000000000000

/-- The eleven bits of the exponent. -/
def exponentBits (x : Double) : Nat := x.bits.toNat / 0x10000000000000 % 0x800

/-- The fifty-two bits of the fraction. -/
def fractionBits (x : Double) : Nat := x.bits.toNat % 0x10000000000000

/-- Whether the number is neither infinite nor undefined. -/
def isFinite (x : Double) : Bool := x.exponentBits < 2047

/-- Whether the number is a positive or negative zero. -/
def isZero (x : Double) : Bool := x.bits.toNat % 0x8000000000000000 = 0

/-- The significand `m` of a finite number, whose size is `m · 2 ^ (scale - 1074)`. -/
def significand (x : Double) : Nat :=
  if x.exponentBits = 0 then x.fractionBits else 0x10000000000000 + x.fractionBits

/-- The exponent of a finite number above that of the smallest ones. -/
def scale (x : Double) : Nat := x.exponentBits - 1

/-- The size of a finite number. -/
def size (x : Double) : Fraction :=
  ⟨x.significand * Nat.pow 2 (x.scale - 1074), Nat.pow 2 (1074 - x.scale)⟩

/-! ## Special numbers -/

/-- The bits of positive infinity, which come after those of all positive numbers. -/
def infinityBits : Nat := 0x7FF0000000000000

/-- Zero without a sign. -/
def zero : Double := ⟨0⟩

/-- Positive infinity. -/
def infinity : Double := ⟨0x7FF0000000000000⟩

/-- Negative infinity. -/
def negativeInfinity : Double := ⟨0xFFF0000000000000⟩

/-- The undefined number. -/
def undefined : Double := ⟨0x7FF8000000000000⟩

/-! ## Rounding -/

/-- The bits of the number nearest to a fraction. The fraction is measured in the distance of the
numbers around it, which is `2 ^ (scale - 1074)`. Rounding up to the next power of two carries into
the exponent. -/
def nearestBits (x : Fraction) : Nat :=
  let smallest : Fraction := ⟨x.numerator * Nat.pow 2 1074, x.denominator⟩
  let scale := (smallest.numerator / smallest.denominator).log2 - 52
  let significand := Fraction.nearest ⟨smallest.numerator, smallest.denominator * Nat.pow 2 scale⟩
  min infinityBits (scale * 0x10000000000000 + significand)

/-- The number nearest to a fraction; beyond the range it is infinite. -/
def ofFraction (x : Fraction) : Double := ⟨UInt64.ofNat (nearestBits x)⟩

/-- The number with the other sign. -/
def negate (x : Double) : Double := ⟨x.bits ^^^ 0x8000000000000000⟩

/-- The product of two finite numbers without a sign. -/
def mul (x y : Double) : Double := ofFraction (x.size.mul y.size)

/-- The quotient of two finite numbers without a sign, of which the second is not zero. -/
def div (x y : Double) : Double := ofFraction (x.size.div y.size)

/-- The number nearest to `digits · 10 ^ exponent`; beyond the range it is infinite. A size that is
far out of range is not computed. -/
def ofDecimal (digits : Nat) (exponent : Int) : Double :=
  let length : Int := (digits.log2 + 1) * 302 / 1000 + 1
  if digits = 0 ∨ length + exponent < -400 then zero
  else if 400 < exponent then infinity
  else ofFraction (Fraction.scaleTen ⟨digits, 1⟩ exponent)

end Double

end WorkflowChain.Decimal
