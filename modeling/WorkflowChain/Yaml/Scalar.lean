import WorkflowChain.Decimal.Double

/-! # Scalars and what they stand for

A scalar of a document is a text. Where a text is expected it is taken as it stands. Where
anything may stand, an unquoted scalar is resolved: to null, a truth value, an integer, a
number, or else the text. A tag can fix the kind.

Integers may carry a sign and be written with base two, eight, ten or sixteen. Decimal digits
that begin with a zero are a text. An integer beyond 128 bits is read as a number.
-/

namespace WorkflowChain

open Decimal

/-- A single datum that tells its own kind. -/
inductive Leaf where
  | null
  | bool (value : Bool)
  | int (value : Int)
  | float (value : Double)
  | text (value : String)
  deriving DecidableEq, Repr

namespace Yaml

/-- How a scalar is written. -/
inductive ScalarStyle where
  | plain
  | singleQuoted
  | doubleQuoted
  | literal
  | folded
  deriving DecidableEq, Repr

/-- The characters of a tag. Escaped octets that are no character leave a place empty. -/
abbrev TagText := List (Option Char)

/-- What a tag says about the kind of a node. -/
inductive Tag where
  | null
  | bool
  | int
  | float
  /-- A local kind. -/
  | own
  /-- A local kind whose name is no text. -/
  | unnamed
  /-- Any other kind. -/
  | other
  deriving DecidableEq, Repr

namespace Tag

/-- The common beginning of the tags that fix a kind. -/
def standard (kind : String) : TagText := ("tag:yaml.org,2002:" ++ kind).toList.map some

/-- The tag with the given characters. A local one begins with an exclamation mark. -/
def ofText (text : TagText) : Tag :=
  if text = standard "null" then .null
  else if text = standard "bool" then .bool
  else if text = standard "int" then .int
  else if text = standard "float" then .float
  else match text with
    | some '!' :: name => if name.all Option.isSome then .own else .unnamed
    | _ => .other

end Tag

/-- A scalar of a document. -/
structure Scalar where
  text : String
  style : ScalarStyle
  tag : Option Tag
  deriving DecidableEq, Repr

namespace Scalar

/-- The value of a digit in a base up to sixteen, if it is one. -/
def digit? (base : Nat) (c : Char) : Option Nat :=
  let value :=
    if '0' ≤ c ∧ c ≤ '9' then c.toNat - '0'.toNat
    else if 'a' ≤ c ∧ c ≤ 'f' then c.toNat - 'a'.toNat + 10
    else if 'A' ≤ c ∧ c ≤ 'F' then c.toNat - 'A'.toNat + 10
    else base
  if value < base then some value else none

/-- The number that one or more digits of a base stand for. -/
def digits? (base : Nat) : List Char → Option Nat
  | [] => none
  | c :: rest =>
    (c :: rest).foldlM (fun sum c => (digit? base c).map (sum * base + ·)) 0

/-- The value of unsigned digits whose base is given in front, ten if it is not. -/
def magnitude? : List Char → Option Nat
  | '0' :: 'x' :: rest => digits? 16 rest
  | '0' :: 'o' :: rest => digits? 8 rest
  | '0' :: 'b' :: rest => digits? 2 rest
  | chars => digits? 10 chars

/-- Whether the characters are ASCII digits only. -/
def allDigits (chars : List Char) : Bool := chars.all fun c => '0' ≤ c ∧ c ≤ '9'

/-- The characters after one sign, if there is one. -/
def afterSign : List Char → List Char
  | '+' :: rest => rest
  | '-' :: rest => rest
  | chars => chars

/-- Digits that begin with a zero and go on: such a text is no number. -/
def isPaddedDigits (chars : List Char) : Bool :=
  match afterSign chars with
  | '0' :: next :: rest => allDigits (next :: rest)
  | _ => false

/-- The value of an integer without a minus sign. -/
def natural? (chars : List Char) : Option Nat :=
  if isPaddedDigits chars then none
  else match chars with
    | '+' :: rest => magnitude? rest
    | chars => magnitude? chars

/-- The integer that the characters stand for. -/
def integer? (chars : List Char) : Option Int :=
  if isPaddedDigits chars then none
  else match chars with
    | '-' :: rest => (magnitude? rest).map fun size => -(size : Int)
    | chars => (natural? chars).map Int.ofNat

/-- The finite number nearest to an unsigned decimal, whose point and exponent are optional. -/
def decimal? (negative : Bool) (chars : List Char) : Option Double :=
  let whole := chars.takeWhile Char.isDigit
  let (fraction, rest) :=
    match chars.dropWhile Char.isDigit with
    | '.' :: more => (more.takeWhile Char.isDigit, more.dropWhile Char.isDigit)
    | more => ([], more)
  match digits? 10 (whole ++ fraction) with
  | none => none
  | some digits =>
    let exponent? : Option Int :=
      match rest with
      | [] => some 0
      | mark :: rest =>
        if mark = 'e' ∨ mark = 'E' then
          let size := digits? 10 (afterSign rest)
          if rest.head? = some '-' then size.map fun n => -(n : Int) else size.map Int.ofNat
        else none
    match exponent? with
    | none => none
    | some exponent =>
      let size := Double.ofDecimal digits (exponent - fraction.length)
      if size.isFinite then some (if negative then size.negate else size) else none

/-- The number that the characters stand for. -/
def number? (chars : List Char) : Option Double :=
  let (positive, unsigned) :=
    match chars with
    | '+' :: rest => (true, rest)
    | chars => (false, chars)
  if unsigned ∈ [".inf".toList, ".Inf".toList, ".INF".toList] then some Double.infinity
  else if chars ∈ ["-.inf".toList, "-.Inf".toList, "-.INF".toList] then
    some Double.negativeInfinity
  else if chars ∈ [".nan".toList, ".NaN".toList, ".NAN".toList] then some Double.undefined
  else match unsigned with
    | '-' :: rest => if positive then none else decimal? true rest
    | '+' :: rest => if positive then none else decimal? false rest
    | rest => decimal? false rest

/-- The words for null. -/
def isNullWord (text : String) : Bool := text ∈ ["null", "Null", "NULL", "~"]

/-- The truth value that a word stands for. -/
def truth? (text : String) : Option Bool :=
  if text ∈ ["true", "True", "TRUE"] then some true
  else if text ∈ ["false", "False", "FALSE"] then some false
  else none

/-- What an integer of a document can become: a datum if it has at most 64 bits, nothing if it is
wider than that and has at most 128. -/
inductive Reading where
  | leaf (datum : Leaf)
  | tooWide
  deriving DecidableEq, Repr

/-- Whether 64 bits are enough for an integer, with or without a sign. -/
def fitsWord (value : Int) : Bool :=
  -0x8000000000000000 ≤ value && value < 0x10000000000000000

/-- Whether 128 bits are enough for an integer, with or without a sign. -/
def fitsTwoWords (value : Int) : Bool :=
  -0x80000000000000000000000000000000 ≤ value && value < 0x100000000000000000000000000000000

/-- The integer that the characters stand for, if it has at most 128 bits. -/
def readInteger? (chars : List Char) : Option Reading :=
  match integer? chars with
  | none => none
  | some value =>
    if fitsWord value then some (.leaf (.int value))
    else if fitsTwoWords value then some .tooWide
    else none

/-- What an unquoted text without a tag stands for. -/
def readPlain (text : String) : Reading :=
  if text.isEmpty || isNullWord text then .leaf .null
  else match truth? text with
    | some value => .leaf (.bool value)
    | none =>
      match readInteger? text.toList with
      | some reading => reading
      | none =>
        match if isPaddedDigits text.toList then none else number? text.toList with
        | some value => .leaf (.float value)
        | none => .leaf (.text text)

/-- The datum of a reading. -/
def Reading.leaf? : Reading → Option Leaf
  | .leaf datum => some datum
  | .tooWide => none

/-- The datum that a scalar without a kind stands for. -/
def resolveFree (scalar : Scalar) : Option Leaf :=
  if scalar.style = .plain then (readPlain scalar.text).leaf? else some (.text scalar.text)

/-- The datum that a scalar stands for where anything may stand. There is none for a local kind, for
a text that does not fit its tag, and for an integer that is too wide. -/
def resolve (scalar : Scalar) : Option Leaf :=
  match scalar.tag with
  | none | some .unnamed => scalar.resolveFree
  | some .own => none
  | some .bool => (truth? scalar.text).map .bool
  | some .int => (readInteger? scalar.text.toList).bind Reading.leaf?
  | some .float => (number? scalar.text.toList).map .float
  | some .null => if isNullWord scalar.text then some .null else none
  | some .other => some (.text scalar.text)

/-- Whether the scalar is an empty plain one, which also stands for an empty collection. -/
def isBlank (scalar : Scalar) : Bool := scalar.text.isEmpty && scalar.style = .plain

/-- Whether the scalar says that an optional datum is absent; `none` if its tag says so and its text
does not. -/
def saysAbsent? (scalar : Scalar) : Option Bool :=
  if scalar.style ≠ .plain then some false
  else match scalar.tag with
    | none => some (scalar.text.isEmpty || isNullWord scalar.text)
    | some .null => if isNullWord scalar.text then some true else none
    | some _ => some false

/-- The count that the scalar stands for where a count is expected. -/
def count? (scalar : Scalar) : Option Nat :=
  if scalar.style = .plain ∨ (scalar.style = .literal ∧ scalar.tag = some .int) then
    (natural? scalar.text.toList).filter (· < 0x10000000000000000)
  else none

end Scalar

end Yaml

end WorkflowChain
