import WorkflowChain.Decimal.Double

/-! # The fewest digits that read back

A finite number stands for all reals that round to it. Among the decimals in that
interval with the fewest digits, `shortest` gives the one nearest to the number. It
tries one digit, two digits, and so on; for each count only the two neighbours of the
number on that decimal grid can be in the interval.
-/

namespace WorkflowChain.Decimal

/-- A positive decimal `digits · 10 ^ exponent`. -/
structure Numeral where
  digits : Nat
  exponent : Int
  deriving DecidableEq, Repr

namespace Double

/-- The size of a finite number as a fraction whose numerator is divided by four, so that the ends
of its interval have whole numerators too: `(numerator of the number, of the lower end, of the
upper end, denominator)`. -/
def interval (x : Double) : Nat × Nat × Nat × Nat :=
  let m := x.significand
  let below := if x.fractionBits = 0 && x.exponentBits > 1 then 1 else 2
  let up := Nat.pow 2 (x.scale - 1076)
  let down := Nat.pow 2 (1076 - x.scale)
  (4 * m * up, (4 * m - below) * up, (4 * m + 2) * up, down)

/-- The shortest decimal that reads back as the given finite number other than zero, sign apart. -/
def shortest (x : Double) : Numeral :=
  let (mid, low, high, denominator) := x.interval
  let closed := x.significand % 2 = 0
  let value : Fraction := ⟨mid, denominator⟩
  let top := value.decimalExponent
  let candidate (count : Nat) : Option Numeral :=
    let exponent := top + 1 - count
    let scaled := value.scaleTen (-exponent)
    let floor := scaled.numerator / scaled.denominator
    let inside (digits : Nat) : Bool :=
      let unit := Fraction.scaleTen ⟨digits * denominator, 1⟩ exponent
      let a := low * unit.denominator
      let b := high * unit.denominator
      if closed then a ≤ unit.numerator && unit.numerator ≤ b
      else a < unit.numerator && unit.numerator < b
    match inside floor, inside (floor + 1) with
    | true, true => some ⟨scaled.nearest, exponent⟩
    | true, false => some ⟨floor, exponent⟩
    | false, true => some ⟨floor + 1, exponent⟩
    | false, false => none
  trim 18 (((List.range 18).tail.findSome? candidate).getD ⟨0, 0⟩)
where
  /-- Drop zeros at the end of the digits, at most the given number of them. -/
  trim : Nat → Numeral → Numeral
    | 0, d => d
    | n + 1, d =>
      if d.digits % 10 = 0 && d.digits ≠ 0 then trim n ⟨d.digits / 10, d.exponent + 1⟩ else d

end Double

end WorkflowChain.Decimal
