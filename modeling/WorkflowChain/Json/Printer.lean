import WorkflowChain.Data.Value
import WorkflowChain.Decimal.Layout

/-! # Values as data texts

A value is written without blanks. In a text, quotation marks, backslashes and control characters
are escaped; all other characters stand for themselves.
-/

namespace WorkflowChain.Json

/-- The lowercase hexadecimal digits of a number below 256. -/
def hexPair (n : Nat) : String :=
  String.ofList [Nat.digitChar (n / 16), Nat.digitChar (n % 16)]

/-- A character inside a quoted text. -/
def escape (c : Char) : String :=
  match c with
  | '"' => "\\\""
  | '\\' => "\\\\"
  | '\n' => "\\n"
  | '\r' => "\\r"
  | '\t' => "\\t"
  | c =>
    if c.toNat = 8 then "\\b"
    else if c.toNat = 12 then "\\f"
    else if c.toNat < 32 then "\\u00" ++ hexPair c.toNat
    else String.singleton c

/-- A text in quotation marks. -/
def quote (text : String) : String :=
  "\"" ++ text.foldl (fun done c => done ++ escape c) "" ++ "\""

mutual

/-- A value as a data text. -/
def render : Value → String
  | .null => "null"
  | .bool value => if value then "true" else "false"
  | .int value => toString value
  | .float value => if value.isFinite then value.render .signed else "null"
  | .text value => quote value
  | .list items => "[" ++ renderItems items ++ "]"
  | .map entries => "\x7b" ++ renderEntries entries ++ "\x7d"

/-- The items of a list, separated by commas. -/
def renderItems : List Value → String
  | [] => ""
  | [item] => render item
  | item :: next :: rest => render item ++ "," ++ renderItems (next :: rest)

/-- The entries of a map, separated by commas. -/
def renderEntries : List (String × Value) → String
  | [] => ""
  | [(key, value)] => quote key ++ ":" ++ render value
  | (key, value) :: next :: rest =>
    quote key ++ ":" ++ render value ++ "," ++ renderEntries (next :: rest)

end

end WorkflowChain.Json
