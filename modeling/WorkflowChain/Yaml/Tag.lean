import WorkflowChain.Yaml.Cursor
import WorkflowChain.Yaml.Scalar

/-! # Tags, anchors and directives

A tag is written in full in angle brackets, or as a suffix after a handle, which stands for the
first part of the tag. A single exclamation mark is a tag too. Characters can be written as escaped
octets; the octets need not be those of a character. Directives at the start of a document can give
handles their meaning. Anchors and aliases are names.
-/

namespace WorkflowChain.Yaml

/-- The length of the UTF-8 form of a character that begins with the given octet. -/
def encodedWidth? (octet : Nat) : Option Nat :=
  if octet < 0x80 then some 1
  else if octet < 0xC0 then none
  else if octet < 0xE0 then some 2
  else if octet < 0xF0 then some 3
  else if octet < 0xF8 then some 4
  else none

/-- The number of an octet that is written after a percent sign. -/
def escapedOctet? : List Char → Option Nat
  | '%' :: high :: low :: _ => Scalar.digits? 16 [high, low]
  | _ => none

/-- The code point that the next `count` octets complete. -/
def continueCode? : Nat → Nat → List Char → Option Nat
  | 0, code, _ => some code
  | count + 1, code, chars => do
    let octet ← escapedOctet? chars
    if octet / 64 = 2 then continueCode? count (code * 64 + octet % 64) (chars.drop 3) else none

/-- The least code point that needs a UTF-8 form of the given length. -/
def leastCode (width : Nat) : Nat :=
  if width = 1 then 0 else if width = 2 then 0x80 else if width = 3 then 0x800 else 0x10000

/-- What is written in escaped octets at the front, and how long that is: a character, or nothing
for octets that have the form of one and are none. -/
def escapedChar? (chars : List Char) : Option (Option Char × Nat) := do
  let octet ← escapedOctet? chars
  let width ← encodedWidth? octet
  let lead := if width = 1 then octet else octet % Nat.pow 2 (7 - width)
  let code ← continueCode? (width - 1) lead (chars.drop 3)
  let plain := if leastCode width ≤ code ∧ code.isValidChar then some (Char.ofNat code) else none
  return (plain, 3 * width)

/-- The characters that stand for themselves in a tag. The brackets and the comma may stand only
where no flow collection can be meant. -/
def isTagChar (isFree : Bool) (c : Char) : Bool :=
  isNameChar c || c ∈ ";/?:@&=+$.!~*'()".toList || (isFree && c ∈ ",[]".toList)

/-- Read the characters of a tag, in reverse. The fuel bounds their number. -/
def tagText? (isFree : Bool) : Nat → TagText → Cursor → Option (TagText × Cursor)
  | 0, _, _ => none
  | fuel + 1, text, cursor =>
    match cursor.next? with
    | none => some (text, cursor)
    | some c =>
      if c = '%' then
        (escapedChar? cursor.rest).bind fun (plain, length) =>
          tagText? isFree fuel (plain :: text) (cursor.skip length)
      else if isTagChar isFree c then tagText? isFree fuel (some c :: text) (cursor.skip 1)
      else some (text, cursor)

/-- The characters of a tag before the first null character. -/
def untilNull (text : TagText) : TagText := text.takeWhile (· ≠ some (Char.ofNat 0))

/-- The characters of a tag at the cursor, at least one. Those from a null character on do not
count. -/
def tagWord? (isFree : Bool) (cursor : Cursor) : Option (TagText × Cursor) := do
  let (text, rest) ← tagText? isFree (cursor.rest.length + 1) [] cursor
  if text.isEmpty then none else some (untilNull text.reverse, rest)

/-- A tag as it is written. -/
structure WrittenTag where
  /-- The handle, which is empty for a tag in full. -/
  handle : String
  suffix : TagText
  deriving DecidableEq, Repr

namespace WrittenTag

/-- The exclamation mark and the name characters after it at the front, and whether one more
exclamation mark follows. -/
def handle? (cursor : Cursor) : Option (List Char × Bool × Cursor) :=
  if cursor.next? = some '!' then
    let (name, rest) := (cursor.skip 1).takeWhile isNameChar
    if rest.next? = some '!' then some (('!' :: name) ++ ['!'], true, rest.skip 1)
    else some ('!' :: name, false, rest)
  else none

/-- The tag at the cursor, without a look at what follows. -/
def body? (cursor : Cursor) : Option (WrittenTag × Cursor) :=
  if cursor.at? 1 = some '<' then do
    let (suffix, rest) ← tagWord? true (cursor.skip 2)
    if rest.next? = some '>' then some (⟨"", suffix⟩, rest.skip 1) else none
  else do
    let (handle, isClosed, rest) ← handle? cursor
    if isClosed then
      let (suffix, rest) ← tagWord? false rest
      return (⟨String.ofList handle, suffix⟩, rest)
    else
      let (more, rest) ← tagText? false (rest.rest.length + 1) [] rest
      let suffix := untilNull ((handle.drop 1).map some ++ more.reverse)
      if suffix.isEmpty then return (⟨"", [some '!']⟩, rest)
      else return (⟨"!", suffix⟩, rest)

/-- The tag at the cursor. Blank space has to follow it, or a comma inside a flow collection. -/
def read? (inFlow : Bool) (cursor : Cursor) : Option (WrittenTag × Cursor) := do
  let (tag, rest) ← body? cursor
  if rest.hasGapAt 0 || (inFlow && rest.next? = some ',') then some (tag, rest) else none

end WrittenTag

/-- The name after the mark of an anchor or of an alias, and the place after it. -/
def anchorName? (cursor : Cursor) : Option (String × Cursor) :=
  let (name, rest) := (cursor.skip 1).takeWhile isNameChar
  if !name.isEmpty && (rest.hasGapAt 0 || rest.next?.any (· ∈ "?:,]\x7d%@`".toList)) then
    some (String.ofList name, rest)
  else none

/-- What is said at the start of a document. -/
inductive Directive where
  /-- The version of the document format. -/
  | version (major minor : Nat)
  /-- What a handle of tags stands for. -/
  | handle (name : String) (meaning : TagText)
  deriving DecidableEq, Repr

namespace Directive

/-- The number at the cursor, of at most nine digits. -/
def number? (cursor : Cursor) : Option (Nat × Cursor) := do
  let (digits, rest) := cursor.takeWhile Char.isDigit
  if digits.length > 9 then none
  else return (← Scalar.digits? 10 digits, rest)

/-- The rest of a version directive. -/
def version? (cursor : Cursor) : Option (Directive × Cursor) := do
  let (major, rest) ← number? (cursor.skipWhile isGap)
  if rest.next? = some '.' then
    let (minor, rest) ← number? (rest.skip 1)
    return (.version major minor, rest)
  else none

/-- The rest of a handle directive. -/
def handle? (cursor : Cursor) : Option (Directive × Cursor) := do
  let (name, isClosed, rest) ← WrittenTag.handle? (cursor.skipWhile isGap)
  if (isClosed || name.length = 1) && rest.next?.any isGap then
    let (meaning, rest) ← tagWord? true (rest.skipWhile isGap)
    if rest.hasGapAt 0 then return (.handle (String.ofList name) meaning, rest) else none
  else none

/-- The directive at the cursor, and the place after its line. -/
def read? (cursor : Cursor) : Option (Directive × Cursor) := do
  let (name, rest) := (cursor.skip 1).takeWhile isNameChar
  if !rest.hasGapAt 0 then none
  else
    let (directive, rest) ←
      if name = "YAML".toList then version? rest
      else if name = "TAG".toList then handle? rest
      else none
    let rest := rest.skipComment
    if rest.isAtLineEnd then return (directive, rest.skipLineEnd) else none

end Directive

end WorkflowChain.Yaml
