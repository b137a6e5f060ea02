import WorkflowChain.Yaml.Character

/-! # Places in a document

A cursor is a place in the text of a document: what follows it, and how far it is from the start of
the text and of its line. The rules about indentation and about keys speak of these distances.

`Gap` is what stands between two words of a scalar. A gap without line breaks is kept. In one with
line breaks, blanks do not count, a single line break becomes a space, and of several the first is
dropped.
-/

namespace WorkflowChain.Yaml

/-- A place in a text. -/
structure Cursor where
  /-- What follows the place. -/
  rest : List Char
  /-- The octets of the text before the place. -/
  index : Nat := 0
  line : Nat := 0
  /-- The characters of the line before the place. -/
  column : Nat := 0
  deriving DecidableEq, Repr

namespace Cursor

/-- The start of a text. -/
def start (text : String) : Cursor := { rest := text.toList }

/-- The next character. -/
def next? (cursor : Cursor) : Option Char := cursor.rest.head?

/-- The character at a distance from the place. -/
def at? (cursor : Cursor) (distance : Nat) : Option Char := cursor.rest[distance]?

/-- The number of octets of characters in UTF-8. -/
def octets (chars : List Char) : Nat := chars.foldr (fun char count => char.utf8Size + count) 0

/-- The place some characters on, in the same line. -/
def skip (count : Nat) (cursor : Cursor) : Cursor :=
  { cursor with
    rest := cursor.rest.drop count
    index := cursor.index + octets (cursor.rest.take count)
    column := cursor.column + count }

/-- The characters up to the first one that does not satisfy `isWanted`, and the place after
them. -/
def takeWhile (isWanted : Char → Bool) (cursor : Cursor) : List Char × Cursor :=
  let run := cursor.rest.takeWhile isWanted
  (run, cursor.skip run.length)

/-- The place of the first character that does not satisfy `isWanted`. -/
def skipWhile (isWanted : Char → Bool) (cursor : Cursor) : Cursor := (cursor.takeWhile isWanted).2

/-- The place after a line break, which may consist of two characters. -/
def skipLine (cursor : Cursor) : Cursor :=
  let width := match cursor.rest with
    | '\r' :: '\n' :: _ => 2
    | _ => 1
  { rest := cursor.rest.drop width
    index := cursor.index + octets (cursor.rest.take width)
    line := cursor.line + 1
    column := 0 }

/-- What a line break stands for: a line feed, unless it is a separator of lines or paragraphs. -/
def lineBreak? (cursor : Cursor) : Option Char :=
  match cursor.next? with
  | some c =>
    if isBreak c then some (if c.toNat = 0x2028 ∨ c.toNat = 0x2029 then c else '\n') else none
  | none => none

/-- Whether the place is at a line break or at the end of the text. -/
def isAtLineEnd (cursor : Cursor) : Bool :=
  match cursor.next? with
  | some c => isBreak c
  | none => true

/-- Whether blank space or the end of the text is at a distance from the place. -/
def hasGapAt (cursor : Cursor) (distance : Nat) : Bool := isGapOrEnd (cursor.at? distance)

/-- The place after the line break that is here, if there is one. -/
def skipLineEnd (cursor : Cursor) : Cursor :=
  if cursor.lineBreak?.isSome then cursor.skipLine else cursor

/-- The place after blanks and a comment. -/
def skipComment (cursor : Cursor) : Cursor :=
  let cursor := cursor.skipWhile isGap
  if cursor.next? = some '#' then cursor.skipWhile (!isBreak ·) else cursor

/-- Whether the line begins with three of the given character, and nothing more. -/
def isAtMark (mark : Char) (cursor : Cursor) : Bool :=
  cursor.column = 0 && cursor.rest.take 3 == [mark, mark, mark] && cursor.hasGapAt 3

/-- Whether a document starts or ends at this line. -/
def isAtBoundary (cursor : Cursor) : Bool := cursor.isAtMark '-' || cursor.isAtMark '.'

end Cursor

/-- What stands between two words of a scalar. -/
structure Gap where
  /-- Whether there is a line break. -/
  hasBreak : Bool := false
  /-- The blanks before any line break, in reverse. -/
  blanks : List Char := []
  /-- The first line break; there is none if it was escaped. -/
  first : Option Char := none
  /-- The other line breaks, in reverse. -/
  others : List Char := []
  deriving DecidableEq, Repr

namespace Gap

/-- What a gap contributes to the text, in reverse. -/
def fold (gap : Gap) : List Char :=
  if !gap.hasBreak then gap.blanks
  else if gap.first = some '\n' then
    if gap.others.isEmpty then [' '] else gap.others
  else gap.others ++ gap.first.toList

/-- The gap with one more line break. -/
def addBreak (gap : Gap) (lineBreak : Char) : Gap :=
  if gap.hasBreak then { gap with others := lineBreak :: gap.others }
  else { gap with hasBreak := true, first := some lineBreak }

/-- The gap with one more blank. -/
def addBlank (gap : Gap) (blank : Char) : Gap :=
  if gap.hasBreak then gap else { gap with blanks := blank :: gap.blanks }

/-- Read a gap to its end. After a line break, no tab may stand left of the margin. The fuel bounds
the number of characters. -/
def read? (margin : Nat) : Nat → Gap → Cursor → Option (Gap × Cursor)
  | 0, _, _ => none
  | fuel + 1, gap, cursor =>
    match cursor.lineBreak? with
    | some lineBreak => read? margin fuel (gap.addBreak lineBreak) cursor.skipLine
    | none =>
      match cursor.next?.filter isGap with
      | some blank =>
        if gap.hasBreak && cursor.column < margin && blank = '\t' then none
        else read? margin fuel (gap.addBlank blank) (cursor.skip 1)
      | none => some (gap, cursor)

end Gap

end WorkflowChain.Yaml
