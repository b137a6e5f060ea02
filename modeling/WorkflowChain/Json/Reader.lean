import WorkflowChain.Json.Number

/-! # Reading data texts

The whole text is checked against the grammar. What is grammatical but has no value becomes a
broken datum: a text with half of a surrogate pair, a number out of range, and a list or map
below 127 others. Such a part matters only where it is used.
-/

namespace WorkflowChain.Json

/-- Blank space between the parts of a text. -/
def isSpace (c : Char) : Bool := c = ' ' || c = '\t' || c = '\n' || c = '\r'

/-- The rest of a text after blank space. -/
def skipSpace (chars : List Char) : List Char := chars.dropWhile isSpace

/-- The nesting of lists and maps that can be decoded. -/
def depthLimit : Nat := 127

/-- The value of a hexadecimal digit. -/
def hexDigit? (c : Char) : Option Nat := Yaml.Scalar.digit? 16 c

/-- The number that four hexadecimal digits stand for. -/
def unit? (a b c d : Char) : Option Nat := do
  let a ← hexDigit? a
  let b ← hexDigit? b
  let c ← hexDigit? c
  let d ← hexDigit? d
  return ((a * 16 + b) * 16 + c) * 16 + d

/-- The character that a backslash and the given character stand for. -/
def escaped? : Char → Option Char
  | '"' => some '"'
  | '\\' => some '\\'
  | '/' => some '/'
  | 'b' => some (Char.ofNat 8)
  | 'f' => some (Char.ofNat 12)
  | 'n' => some '\n'
  | 'r' => some '\r'
  | 't' => some '\t'
  | _ => none

/-- The 16-bit units and characters of a quoted text, up to the closing quotation mark, and the
rest. -/
def quoted? : List Char → Option (List (Nat ⊕ Char) × List Char)
  | [] => none
  | '"' :: rest => some ([], rest)
  | '\\' :: 'u' :: a :: b :: c :: d :: rest => do
    let unit ← unit? a b c d
    let (more, rest) ← quoted? rest
    return (.inl unit :: more, rest)
  | '\\' :: c :: rest => do
    let plain ← escaped? c
    let (more, rest) ← quoted? rest
    return (.inr plain :: more, rest)
  | c :: rest =>
    if c.toNat < 32 then none
    else do
      let (more, rest) ← quoted? rest
      return (.inr c :: more, rest)

/-- The characters that units and characters stand for: a leading and a trailing surrogate next to
each other are one character, and alone they are none. -/
def joinUnits : List (Nat ⊕ Char) → Option (List Char)
  | [] => some []
  | .inr c :: rest => (joinUnits rest).map (c :: ·)
  | .inl high :: .inl low :: rest =>
    if 0xD800 ≤ high ∧ high < 0xDC00 then
      if 0xDC00 ≤ low ∧ low < 0xE000 then
        (joinUnits rest).map
          (Char.ofNat (0x10000 + (high - 0xD800) * 0x400 + (low - 0xDC00)) :: ·)
      else none
    else if 0xDC00 ≤ high ∧ high < 0xE000 then none
    else (joinUnits (.inl low :: rest)).map (Char.ofNat high :: ·)
  | .inl unit :: rest =>
    if 0xD800 ≤ unit ∧ unit < 0xE000 then none
    else (joinUnits rest).map (Char.ofNat unit :: ·)

/-- The text after an opening quotation mark, and the rest. -/
def text? (chars : List Char) : Option (Datum × List Char) := do
  let (units, rest) ← quoted? chars
  return ((joinUnits units).elim .broken fun content => .text (String.ofList content), rest)

/-- The digits at the front, at least one, and the rest. -/
def digits? (chars : List Char) : Option (List Char × List Char) :=
  match chars.takeWhile Char.isDigit with
  | [] => none
  | digits => some (digits, chars.dropWhile Char.isDigit)

/-- The number at the front, and the rest. -/
def number? (chars : List Char) : Option (Datum × List Char) := do
  let (negative, chars) := match chars with
    | '-' :: rest => (true, rest)
    | chars => (false, chars)
  let (whole, rest) ← digits? chars
  if whole.head? = some '0' ∧ whole.length > 1 then none
  else
    let (fraction, rest) ← match rest with
      | '.' :: rest => (digits? rest).map fun (digits, rest) => (some digits, rest)
      | rest => some (none, rest)
    let (exponent, rest) ← match rest with
      | mark :: rest =>
        if mark = 'e' ∨ mark = 'E' then
          let (down, rest) := match rest with
            | '-' :: rest => (true, rest)
            | '+' :: rest => (false, rest)
            | rest => (false, rest)
          (digits? rest).map fun (digits, rest) => (some (down, digits), rest)
        else some (none, mark :: rest)
      | [] => some (none, [])
    return (NumberText.datum ⟨negative, whole, fraction, exponent⟩, rest)

/-- A word that stands for a datum, and the rest. -/
def word? (chars : List Char) : Option (Datum × List Char) :=
  match chars with
  | 'n' :: 'u' :: 'l' :: 'l' :: rest => some (.leaf .null, rest)
  | 't' :: 'r' :: 'u' :: 'e' :: rest => some (.leaf (.bool true), rest)
  | 'f' :: 'a' :: 'l' :: 's' :: 'e' :: rest => some (.leaf (.bool false), rest)
  | _ => none

/-- A collection as it can be decoded at a depth. -/
def limited (depth : Nat) (collection : Datum) : Datum :=
  if depth < depthLimit then collection else .broken

mutual

/-- The datum at the front of a text, inside as many collections as `depth` says. The fuel bounds
the number of nested calls. -/
def datum? : Nat → Nat → List Char → Option (Datum × List Char)
  | 0, _, _ => none
  | fuel + 1, depth, chars =>
    match skipSpace chars with
    | '"' :: rest => text? rest
    | '[' :: rest =>
      match skipSpace rest with
      | ']' :: rest => some (limited depth (.list true []), rest)
      | rest => do
        let (items, rest) ← items? fuel (depth + 1) rest
        return (limited depth (.list true items), rest)
    | '{' :: rest =>
      match skipSpace rest with
      | '}' :: rest => some (limited depth (.map []), rest)
      | rest => do
        let (entries, rest) ← entries? fuel (depth + 1) rest
        return (limited depth (.map entries), rest)
    | '-' :: rest => number? ('-' :: rest)
    | c :: rest => if c.isDigit then number? (c :: rest) else word? (c :: rest)
    | [] => none

/-- The items up to the end of a list, at least one, and the rest. -/
def items? : Nat → Nat → List Char → Option (List Datum × List Char)
  | 0, _, _ => none
  | fuel + 1, depth, chars => do
    let (item, rest) ← datum? fuel depth chars
    match skipSpace rest with
    | ',' :: rest => do
      let (items, rest) ← items? fuel depth rest
      return (item :: items, rest)
    | ']' :: rest => some ([item], rest)
    | _ => none

/-- The entries up to the end of a map, at least one, and the rest. -/
def entries? : Nat → Nat → List Char → Option (List (Datum × Datum) × List Char)
  | 0, _, _ => none
  | fuel + 1, depth, chars =>
    match skipSpace chars with
    | '"' :: rest => do
      let (key, rest) ← text? rest
      match skipSpace rest with
      | ':' :: rest => do
        let (value, rest) ← datum? fuel depth rest
        match skipSpace rest with
        | ',' :: rest => do
          let (entries, rest) ← entries? fuel depth rest
          return ((key, value) :: entries, rest)
        | '}' :: rest => some ([(key, value)], rest)
        | _ => none
      | _ => none
    | _ => none

end

/-- The datum that a data text stands for, if it is grammatical. -/
def read? (text : String) : Option Datum := do
  let chars := text.toList
  let (datum, rest) ← datum? (2 * chars.length + 2) 0 chars
  if (skipSpace rest).isEmpty then some datum else none

end WorkflowChain.Json
