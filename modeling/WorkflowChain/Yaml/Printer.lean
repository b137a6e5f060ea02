import WorkflowChain.Data.Value
import WorkflowChain.Decimal.Layout
import WorkflowChain.Yaml.Character
import WorkflowChain.Yaml.Scalar

/-! # Values as documents

A value is written in block style. Collections below a key are indented by two, except that the
items of a list stand in the column of their key; below the mark of a list item a collection begins
on the same line. Empty collections are written in brackets.

A text is written plain if it then reads back as the same text, else in single quotes if it can be,
else in double quotes with escapes. A text with line feeds is written as a literal block if it can
be. A key that has line breaks or more than 128 bytes is marked with a question mark.
-/

namespace WorkflowChain.Yaml

/-! ## Texts -/

/-- What the characters of a text allow. -/
structure TextForm where
  /-- The text has line breaks. -/
  multiline : Bool
  /-- The text can be written without quotes. -/
  plain : Bool
  /-- The text can be written in single quotes. -/
  single : Bool
  /-- The text can be written as a literal block. -/
  literal : Bool
  deriving DecidableEq, Repr

/-- The characters with which a plain text cannot begin. -/
def isLeadingIndicator (c : Char) : Bool :=
  c ∈ "#,[]\x7b\x7d&*!|>'\"%@`".toList

/-- Whether the rest of a text, after the given character, has a mark that ends a plain text: a
colon before a gap, or a number sign after one. -/
def hasInnerMark : Char → List Char → Bool
  | _, [] => false
  | before, c :: rest =>
    (c = ':' && isGapOrEnd rest.head?) || (c = '#' && isGapOrEnd (some before))
      || hasInnerMark c rest

/-- Whether a text has a mark that keeps it from being plain. -/
def hasMark : List Char → Bool
  | [] => false
  | c :: rest =>
    "---".toList.isPrefixOf (c :: rest) || "...".toList.isPrefixOf (c :: rest)
      || isLeadingIndicator c
      || ((c = '?' || c = ':' || c = '-') && isGapOrEnd rest.head?)
      || hasInnerMark c rest

/-- Whether two neighbours satisfy the given relation. -/
def hasNeighbours (related : Char → Char → Bool) : List Char → Bool
  | first :: second :: rest =>
    related first second || hasNeighbours related (second :: rest)
  | _ => false

/-- What the characters of a text allow. -/
def TextForm.of (chars : List Char) : TextForm :=
  let multiline := chars.any isBreak
  let spaceThenBreak := hasNeighbours (fun a b => a = ' ' && isBreak b) chars
  let breakThenSpace := hasNeighbours (fun a b => isBreak a && b = ' ') chars
  let special := chars.any (!isPrintable ·)
  let atEnd := chars.getLast?
  let trailingSpace := atEnd = some ' '
  let ragged := chars.head? = some ' ' || trailingSpace
  { multiline
    plain := !ragged && !multiline && !special && !hasMark chars
    single := !breakThenSpace && !spaceThenBreak && !special
    literal := !chars.isEmpty && !trailingSpace && !spaceThenBreak && !special }

/-- Whether an unquoted text would be read as something else, or is a number with padding. -/
def readsDifferently (text : String) : Bool :=
  match Scalar.readPlain text with
  | .leaf (.text _) => Scalar.isPaddedDigits text.toList
  | _ => true

/-- Spaces, as many as given. -/
def spaces (count : Nat) : String := String.ofList (List.replicate count ' ')

/-- A number in uppercase hexadecimal digits, at least as many as given. -/
def hexUpper (width n : Nat) : String :=
  let digits := (Nat.toDigits 16 n).map Char.toUpper
  String.ofList (List.replicate (width - digits.length) '0' ++ digits)

/-- A character between double quotes. -/
def escape (c : Char) : String :=
  match c.toNat with
  | 0x00 => "\\0"
  | 0x07 => "\\a"
  | 0x08 => "\\b"
  | 0x09 => "\\t"
  | 0x0A => "\\n"
  | 0x0B => "\\v"
  | 0x0C => "\\f"
  | 0x0D => "\\r"
  | 0x1B => "\\e"
  | 0x22 => "\\\""
  | 0x5C => "\\\\"
  | 0x85 => "\\N"
  | 0x2028 => "\\L"
  | 0x2029 => "\\P"
  | n =>
    if isPrintable c then String.singleton c
    else if n ≤ 0xFF then "\\x" ++ hexUpper 2 n
    else if n ≤ 0xFFFF then "\\u" ++ hexUpper 4 n
    else "\\U" ++ hexUpper 8 n

/-- A text in double quotes. -/
def doubleQuoted (text : String) : String :=
  "\"" ++ text.foldl (fun done c => done ++ escape c) "" ++ "\""

/-- Characters on indented lines: after a line break, the next character of another kind is preceded
by spaces. -/
def indented (indent : Nat) (write : Char → String) : Bool → List Char → String
  | _, [] => ""
  | fresh, c :: rest =>
    if isBreak c then String.singleton c ++ indented indent write true rest
    else (if fresh then spaces indent else "") ++ write c ++ indented indent write false rest

/-- A text in single quotes; its lines, if it has several, are indented. -/
def singleQuoted (indent : Nat) (text : String) : String :=
  let double (c : Char) := if c = '\'' then "''" else String.singleton c
  let closing := if text.toList.getLast?.any isBreak then spaces indent else ""
  "'" ++ indented indent double false text.toList ++ closing ++ "'"

/-- A text as a literal block. The header gives the indentation if the first line does not show it,
and says what becomes of the line breaks at the end. -/
def literalBlock (indent : Nat) (text : String) : String :=
  let hint := if text.toList.head?.any (fun c => c = ' ' || isBreak c) then "2" else ""
  let chomp := match text.toList.reverse with
    | [] => "-"
    | last :: before =>
      if !isBreak last then "-"
      else match before with
        | [] => "+"
        | previous :: _ => if isBreak previous then "+" else ""
  "|" ++ hint ++ chomp ++ "\n" ++ indented indent String.singleton true text.toList

/-- A text, at a place where the lines after the first are indented by `indent`. A simple key has to
stand on one line. -/
def writeText (indent : Nat) (simpleKey : Bool) (text : String) : String :=
  let form := TextForm.of text.toList
  if simpleKey && form.multiline then doubleQuoted text
  else if text.toList.contains '\n' then
    if form.literal && !simpleKey then literalBlock indent text else doubleQuoted text
  else if form.plain && !readsDifferently text then text
  else if form.single then singleQuoted indent text
  else doubleQuoted text

/-! ## Values -/

/-- The text with a line feed at the end, unless it ends with a line break already. -/
def endLine (text : String) : String :=
  if text.toList.getLast?.any isBreak then text else text ++ "\n"

/-- Whether a key can stand in front of its colon without a mark. -/
def isSimpleKey (key : String) : Bool :=
  key.utf8ByteSize ≤ 128 && !(TextForm.of key.toList).multiline

/-- The text of a value that is not a collection, or an empty one. -/
def writeLeaf (indent : Nat) : Value → String
  | .null => "null"
  | .bool value => if value then "true" else "false"
  | .int value => toString value
  | .float value => if value.isFinite then value.render .unsigned else ".nan"
  | .text value => writeText indent false value
  | .list _ => "[]"
  | .map _ => "\x7b\x7d"

/-- A key up to its colon, in a map with the given indentation. -/
def writeKey (indent : Nat) (key : String) : String :=
  if isSimpleKey key then writeText (indent + 2) true key ++ ":"
  else "? " ++ endLine (writeText (indent + 2) false key) ++ spaces indent ++ ":"

mutual

/-- What stands after a key or after the mark of a list item, in a collection with the given
indentation. Only after a simple key does a collection begin on a new line. -/
def writeNode (indent : Nat) (newLine : Bool) : Value → String
  | .list (item :: rest) =>
    if newLine then "\n" ++ spaces indent ++ writeItems indent (item :: rest)
    else " " ++ writeItems (indent + 2) (item :: rest)
  | .map (entry :: rest) =>
    (if newLine then "\n" ++ spaces (indent + 2) else " ")
      ++ writeEntries (indent + 2) (entry :: rest)
  | other => " " ++ writeLeaf (indent + 2) other

/-- The items of a list with the given indentation, from the mark of the first one on. -/
def writeItems (indent : Nat) : List Value → String
  | [] => ""
  | item :: rest =>
    "-" ++ endLine (writeNode indent false item)
      ++ (if rest.isEmpty then "" else spaces indent) ++ writeItems indent rest

/-- The entries of a map with the given indentation, from the first key on. -/
def writeEntries (indent : Nat) : List (String × Value) → String
  | [] => ""
  | (key, value) :: rest =>
    writeKey indent key ++ endLine (writeNode indent (isSimpleKey key) value)
      ++ (if rest.isEmpty then "" else spaces indent) ++ writeEntries indent rest

end

/-- A value as a document. A text of several lines is indented although nothing is around it. -/
def render : Value → String
  | .list (item :: rest) => writeItems 0 (item :: rest)
  | .map (entry :: rest) => writeEntries 0 (entry :: rest)
  | other => endLine (writeLeaf 2 other)

end WorkflowChain.Yaml
