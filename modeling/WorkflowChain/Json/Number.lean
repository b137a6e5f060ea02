import WorkflowChain.Data.Datum

/-! # Numbers of a data text

A number without point and exponent is an integer if it has at most 64 bits, and a floating point
number if it has more; `-0` is the negative zero. All other numbers are floating point. Their first
digits, as many as fit 64 bits, are rounded to a double and then multiplied or divided by a power
of ten, so the last bit of a long number need not be the nearest one. A number that is too large
cannot be decoded.
-/

namespace WorkflowChain.Json

open Decimal

/-- The parts of a number as they stand in the text. -/
structure NumberText where
  negative : Bool
  whole : List Char
  /-- The digits after the point, if there is a point. -/
  fraction : Option (List Char)
  /-- Whether the exponent is negative, and its digits, if there is an exponent. -/
  exponent : Option (Bool × List Char)

namespace NumberText

/-- The greatest number of 64 bits. -/
def limit : Nat := 0xFFFFFFFFFFFFFFFF

/-- Take digits into a significand for as long as it fits 64 bits; also count those taken and those
left out. -/
def takeDigits (digits : List Char) (significand : Nat) : Nat × Nat × Nat :=
  digits.foldl
    (fun (sum, taken, left) c =>
      let next := sum * 10 + (c.toNat - '0'.toNat)
      if left = 0 ∧ next ≤ limit then (next, taken + 1, 0) else (sum, taken, left + 1))
    (significand, 0, 0)

/-- A number times a power of ten, if it does not overflow. A power below `1e-308` is divided away
in steps. -/
def scale : Nat → Double → Int → Option Double
  | 0, _, _ => some .zero
  | _ + 1, x, .ofNat up =>
    if up > 308 then if x.isZero then some x else none
    else
      let scaled := x.mul (.ofDecimal 1 up)
      if scaled.isFinite then some scaled else none
  | steps + 1, x, .negSucc down =>
    if down + 1 > 308 then
      if x.isZero then some x
      else scale steps (x.div (.ofDecimal 1 308)) (308 - (down + 1 : Int))
    else some (x.div (.ofDecimal 1 (down + 1)))

/-- The floating point number `± significand · 10 ^ exponent`. -/
def float (negative : Bool) (significand : Nat) (exponent : Int) : Datum :=
  match scale 8 (.ofDecimal significand 0) exponent with
  | some size => .leaf (.float (if negative then size.negate else size))
  | none => .broken

/-- The datum that the text of a number stands for. -/
def datum (number : NumberText) : Datum :=
  let (significand, _, left) := takeDigits number.whole 0
  match number.fraction, number.exponent with
  | none, none =>
    if left > 0 then float number.negative significand left
    else if number.negative then
      if significand = 0 ∨ significand > 0x8000000000000000 then float true significand 0
      else .leaf (.int (-(significand : Int)))
    else .leaf (.int significand)
  | fraction, exponent =>
    let (significand, taken, _) := takeDigits (fraction.getD []) significand
    let start : Int := left - taken
    match exponent with
    | none => float number.negative significand start
    | some (down, digits) =>
      let size := digits.foldl (fun sum c => sum * 10 + (c.toNat - '0'.toNat)) 0
      if size > 0x7FFFFFFF then
        if significand ≠ 0 ∧ ¬down then .broken else float number.negative 0 0
      else
        float number.negative significand (if down then start - size else start + size)

end NumberText

end WorkflowChain.Json
