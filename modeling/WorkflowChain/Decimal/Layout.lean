import WorkflowChain.Decimal.Shortest

/-! # The text of a number

A finite number is written with the fewest digits that read back. Sizes from `1e-5` up to,
but not including, `1e16` are written out with a point and at least one digit after it;
all others as one digit, the further digits after a point, and an exponent. What differs
between two texts is how a positive exponent begins.
-/

namespace WorkflowChain.Decimal

/-- How numbers are written in one kind of text. -/
structure Layout where
  /-- What stands between the digits and a positive exponent. -/
  positiveExponent : String
  /-- What stands between the digits and the size of a negative exponent. -/
  negativeExponent : String

/-- Numbers of a data text and of messages: `1e+16`. -/
def Layout.signed : Layout := ⟨"e+", "e-"⟩

/-- Numbers of a document: `1e16`. -/
def Layout.unsigned : Layout := ⟨"e", "e-"⟩

/-- Zeros, as many as given. -/
def zeros (count : Nat) : String := String.ofList (List.replicate count '0')

/-- The text of a positive decimal. -/
def Layout.write (layout : Layout) (d : Numeral) : String :=
  let digits := (toString d.digits).toList
  let count := digits.length
  let point : Int := count + d.exponent
  if 0 ≤ d.exponent ∧ point ≤ 16 then
    String.ofList digits ++ zeros d.exponent.toNat ++ ".0"
  else if 0 < point ∧ point ≤ 16 then
    String.ofList (digits.take point.toNat) ++ "." ++ String.ofList (digits.drop point.toNat)
  else if -5 < point ∧ point ≤ 0 then
    "0." ++ zeros (-point).toNat ++ String.ofList digits
  else
    let mark := if 0 < point then layout.positiveExponent else layout.negativeExponent
    let lead := match digits with
      | [] => ""
      | [only] => String.ofList [only]
      | first :: rest => String.ofList [first] ++ "." ++ String.ofList rest
    lead ++ mark ++ toString (point - 1).natAbs

/-- The text of a finite number. -/
def Double.render (layout : Layout) (x : Double) : String :=
  let size := if x.isZero then "0.0" else layout.write x.shortest
  if x.isNegative then "-" ++ size else size

end WorkflowChain.Decimal
