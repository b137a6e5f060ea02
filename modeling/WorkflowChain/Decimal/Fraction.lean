/-! # Fractions

Positive fractions of natural numbers, not in lowest terms. The exact values of numbers are computed
with them before they are rounded.
-/

namespace WorkflowChain.Decimal

/-- The fraction `numerator / denominator`. -/
structure Fraction where
  numerator : Nat
  denominator : Nat
  deriving DecidableEq, Repr

namespace Fraction

/-- The fraction times a power of ten. -/
def scaleTen (x : Fraction) : Int → Fraction
  | .ofNat up => ⟨x.numerator * Nat.pow 10 up, x.denominator⟩
  | .negSucc down => ⟨x.numerator, x.denominator * Nat.pow 10 (down + 1)⟩

/-- The product of two fractions. -/
def mul (x y : Fraction) : Fraction :=
  ⟨x.numerator * y.numerator, x.denominator * y.denominator⟩

/-- The quotient of two fractions. -/
def div (x y : Fraction) : Fraction :=
  ⟨x.numerator * y.denominator, x.denominator * y.numerator⟩

/-- The whole number nearest to a fraction, the even one of two. -/
def nearest (x : Fraction) : Nat :=
  let floor := x.numerator / x.denominator
  let twice := 2 * (x.numerator % x.denominator)
  if x.denominator < twice || (twice = x.denominator && floor % 2 = 1) then floor + 1 else floor

/-- The exponent `p` with `10 ^ p ≤ x < 10 ^ (p + 1)`: the binary logarithm gives it up to one. -/
def decimalExponent (x : Fraction) : Int :=
  let guess := ((x.numerator.log2 : Int) - x.denominator.log2) * 30103 / 100000
  let reaches (p : Int) : Bool :=
    let scaled := x.scaleTen (-p)
    scaled.numerator ≥ scaled.denominator
  (([guess + 1, guess, guess - 1].find? reaches)).getD (guess - 2)

end Fraction

end WorkflowChain.Decimal
