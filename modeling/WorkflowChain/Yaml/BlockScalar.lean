import WorkflowChain.Yaml.Cursor
import WorkflowChain.Yaml.Scalar

/-! # Scalars in blocks

A block scalar consists of the lines after its header that are indented. A literal one keeps its
line breaks; a folded one joins neighbouring lines, except those that begin with a blank. The header
can fix the indentation and what becomes of the line breaks at the end.
-/

namespace WorkflowChain.Yaml.BlockScalar

/-- What becomes of the line breaks at the end. -/
inductive Chomping where
  /-- All are dropped. -/
  | strip
  /-- One is kept. -/
  | clip
  /-- All are kept. -/
  | keep
  deriving DecidableEq, Repr

/-- What the header of a block scalar fixes. -/
structure Header where
  chomping : Chomping := .clip
  indentation : Option Nat := none
  deriving DecidableEq, Repr

/-- The digit for the indentation at the front, which must not be a zero, and the rest. -/
def indentation? (chars : List Char) : Option (Option Nat × List Char) :=
  match chars with
  | c :: rest =>
    if c = '0' then none
    else if c.isDigit then some (some (c.toNat - '0'.toNat), rest)
    else some (none, chars)
  | [] => some (none, [])

/-- The mark for the line breaks at the front, if there is one, and the rest. -/
def chomping? : List Char → Option Chomping × List Char
  | '+' :: rest => (some .keep, rest)
  | '-' :: rest => (some .strip, rest)
  | rest => (none, rest)

/-- The header at the front, without comment, and its length. -/
def header? (chars : List Char) : Option (Header × Nat) := do
  let (before, rest) := chomping? chars
  let (indentation, rest) ← indentation? rest
  let (chomping, rest) := match before, indentation with
    | none, some _ => chomping? rest
    | before, _ => (before, rest)
  return (⟨chomping.getD .clip, indentation⟩, chars.length - rest.length)

/-- Line breaks in front of a line, in reverse, with the place of the line and the greatest
indentation that was seen. -/
structure Breaks where
  breaks : List Char := []
  cursor : Cursor
  widest : Nat := 0

/-- Pass empty lines and the indentation of the next line, to the given indentation or as far as it
goes. The fuel bounds the number of lines. -/
def passBreaks? (indentation : Option Nat) : Nat → Breaks → Option Breaks
  | 0, _ => none
  | fuel + 1, state =>
    let start := state.cursor
    let blanks := (start.rest.takeWhile (· = ' ')).length
    let cursor := start.skip (match indentation with
      | some width => min blanks (width - start.column)
      | none => blanks)
    let widest := max state.widest cursor.column
    let isInside := match indentation with
      | some width => cursor.column < width
      | none => true
    if isInside && cursor.next? = some '\t' then none
    else match cursor.lineBreak? with
      | some lineBreak =>
        passBreaks? indentation fuel
          { breaks := lineBreak :: state.breaks, cursor := cursor.skipLine, widest }
      | none => some { state with cursor, widest }

/-- What was read of a block scalar, in reverse. -/
structure Content where
  text : List Char := []
  /-- The line break after the last line. -/
  lastBreak : List Char := []
  /-- The line breaks after that. -/
  breaks : List Char
  /-- Whether the last line begins with a blank. -/
  afterBlank : Bool := false
  cursor : Cursor

/-- The text in front of the next line. -/
def Content.joined (content : Content) (isFolded beginsBlank : Bool) : List Char :=
  let separator :=
    if isFolded && content.lastBreak = ['\n'] && !content.afterBlank && !beginsBlank then
      if content.breaks.isEmpty then [' '] else []
    else content.lastBreak
  content.breaks ++ separator ++ content.text

/-- Read the lines with the given indentation. The fuel bounds the number of lines. -/
def lines? (isFolded : Bool) (indentation : Nat) : Nat → Content → Option Content
  | 0, _ => none
  | fuel + 1, content =>
    let cursor := content.cursor
    match cursor.next? with
    | none => some content
    | some first =>
      if cursor.column ≠ indentation then some content
      else do
        let beginsBlank := isGap first
        let (line, cursor) := cursor.takeWhile (!isBreak ·)
        let lastBreak := cursor.lineBreak?.toList
        let next ← passBreaks? (some indentation) (cursor.rest.length + 1)
          { cursor := cursor.skipLineEnd }
        lines? isFolded indentation fuel
          { text := line.reverse ++ content.joined isFolded beginsBlank
            lastBreak
            breaks := next.breaks
            afterBlank := beginsBlank
            cursor := next.cursor }

/-- The text of a block scalar, in reverse, after what the header says about its end. -/
def Content.chomped (content : Content) : Chomping → List Char
  | .strip => content.text
  | .clip => content.lastBreak ++ content.text
  | .keep => content.breaks ++ content.lastBreak ++ content.text

/-- The block scalar at the cursor, and the place after it. Its lines must be indented at least to
the margin, and at least by one. -/
def read? (margin : Nat) (cursor : Cursor) : Option (Scalar × Cursor) := do
  let isFolded := cursor.next? = some '>'
  let cursor := cursor.skip 1
  let (header, length) ← header? cursor.rest
  let cursor := (cursor.skip length).skipComment
  if !cursor.isAtLineEnd then none
  else
    let fixed := header.indentation.map (margin - 1 + ·)
    let first ← passBreaks? fixed (cursor.rest.length + 1) { cursor := cursor.skipLineEnd }
    let indentation := fixed.getD (max first.widest (max margin 1))
    let content ← lines? isFolded indentation (cursor.rest.length + 1)
      { breaks := first.breaks, cursor := first.cursor }
    let text := content.chomped header.chomping
    return (⟨String.ofList text.reverse, if isFolded then .folded else .literal, none⟩,
      content.cursor)

end WorkflowChain.Yaml.BlockScalar
