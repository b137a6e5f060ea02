import WorkflowChain.Yaml.Cursor
import WorkflowChain.Yaml.Scalar

/-! # Scalars within lines

Quoted and plain scalars. Both may go on over several lines, whose breaks are folded. A scalar in
double quotes may have escapes. A plain scalar ends where something else could begin: at a comment,
at a colon before blank space, at the boundary of a document, at a line that is not indented enough,
and inside a flow collection also at its punctuation.
-/

namespace WorkflowChain.Yaml

/-! ## Quoted scalars -/

/-- The character that a letter after a backslash stands for. -/
def shortEscape? : Char → Option Char
  | '0' => some (Char.ofNat 0)
  | 'a' => some (Char.ofNat 7)
  | 'b' => some (Char.ofNat 8)
  | 't' | '\t' => some '\t'
  | 'n' => some '\n'
  | 'v' => some (Char.ofNat 11)
  | 'f' => some (Char.ofNat 12)
  | 'r' => some '\r'
  | 'e' => some (Char.ofNat 27)
  | ' ' => some ' '
  | '"' => some '"'
  | '/' => some '/'
  | '\\' => some '\\'
  | 'N' => some (Char.ofNat 0x85)
  | '_' => some (Char.ofNat 0xA0)
  | 'L' => some (Char.ofNat 0x2028)
  | 'P' => some (Char.ofNat 0x2029)
  | _ => none

/-- How many hexadecimal digits follow a letter after a backslash. -/
def codeLength? : Char → Option Nat
  | 'x' => some 2
  | 'u' => some 4
  | 'U' => some 8
  | _ => none

/-- The character of a code point, if there is one. -/
def ofCode? (code : Nat) : Option Char :=
  if code.isValidChar then some (Char.ofNat code) else none

/-- The character that an escape stands for, and the length of the escape. The characters given are
those after the backslash. -/
def escape? : List Char → Option (Char × Nat)
  | [] => none
  | letter :: rest =>
    match codeLength? letter with
    | some length =>
      let code? := if rest.length < length then none else Scalar.digits? 16 (rest.take length)
      (code?.bind ofCode?).map (·, length + 2)
    | none => (shortEscape? letter).map (·, 2)

/-- Read a quoted scalar after its opening quotation mark, with its text so far in reverse. The fuel
bounds the number of steps. -/
def quoted? (quote : Char) : Nat → List Char → Cursor → Option (List Char × Cursor)
  | 0, _, _ => none
  | fuel + 1, text, cursor =>
    if cursor.isAtBoundary then none
    else match cursor.rest with
      | [] => none
      | c :: rest =>
        if c = quote then
          if quote = '\'' ∧ rest.head? = some quote then
            quoted? quote fuel (quote :: text) (cursor.skip 2)
          else some (text, cursor.skip 1)
        else if quote = '"' ∧ c = '\\' then
          if rest.head?.any isBreak then
            (Gap.read? 0 (rest.length + 1) { hasBreak := true } (cursor.skip 1).skipLine).bind
              fun (gap, cursor) => quoted? quote fuel (gap.fold ++ text) cursor
          else (escape? rest).bind fun (plain, length) =>
            quoted? quote fuel (plain :: text) (cursor.skip length)
        else if isGap c || isBreak c then
          (Gap.read? 0 (rest.length + 2) {} cursor).bind fun (gap, cursor) =>
            quoted? quote fuel (gap.fold ++ text) cursor
        else quoted? quote fuel (c :: text) (cursor.skip 1)

/-- The quoted scalar at the cursor, and the place after it. -/
def quotedScalar? (cursor : Cursor) : Option (Scalar × Cursor) := do
  let quote ← cursor.next?
  let (text, rest) ← quoted? quote (cursor.rest.length + 1) [] (cursor.skip 1)
  let style := if quote = '"' then ScalarStyle.doubleQuoted else .singleQuoted
  return (⟨String.ofList text.reverse, style, none⟩, rest)

/-! ## Plain scalars -/

/-- The characters that end a plain scalar inside a flow collection. -/
def isFlowMark (c : Char) : Bool := c = ',' || c = '[' || c = ']' || c = '\x7b' || c = '\x7d'

/-- The word at the front of a plain scalar. Inside a flow collection, punctuation must not follow a
colon. -/
def plainWord? (inFlow : Bool) : List Char → Option (List Char)
  | [] => some []
  | c :: rest =>
    if isGap c || isBreak c then some []
    else if inFlow && c = ':' && rest.head?.any (fun next => isFlowMark next || next = '?') then
      none
    else if (c = ':' && isGapOrEnd rest.head?) || (inFlow && isFlowMark c) then some []
    else (plainWord? inFlow rest).map (c :: ·)

/-- A plain scalar that was read. -/
structure PlainText where
  /-- The text in reverse. -/
  text : List Char
  /-- Whether a line break was passed after the last word. -/
  endsLine : Bool
  /-- The place after it. -/
  after : Cursor

/-- Read a plain scalar from the start of a word, with the text and the gap before it. The lines
after the first must reach the margin. The fuel bounds the number of words. -/
def plain? (inFlow : Bool) (margin : Nat) :
    Nat → List Char → Gap → Cursor → Option PlainText
  | 0, _, _, _ => none
  | fuel + 1, text, gap, cursor =>
    if cursor.isAtBoundary || cursor.next? = some '#' then some ⟨text, gap.hasBreak, cursor⟩
    else do
      let word ← plainWord? inFlow cursor.rest
      if word.isEmpty then return ⟨text, gap.hasBreak, cursor⟩
      else
        let text := word.reverse ++ gap.fold ++ text
        let cursor := cursor.skip word.length
        let (gap, cursor) ← Gap.read? margin (cursor.rest.length + 1) {} cursor
        if gap = {} then return ⟨text, false, cursor⟩
        else if !inFlow && cursor.column < margin then return ⟨text, gap.hasBreak, cursor⟩
        else plain? inFlow margin fuel text gap cursor

/-- The plain scalar at the cursor, with the place after it and whether that is in a later line. -/
def plainScalar? (inFlow : Bool) (margin : Nat) (cursor : Cursor) :
    Option (Scalar × Bool × Cursor) := do
  let plain ← plain? inFlow margin (cursor.rest.length + 1) [] {} cursor
  return (⟨String.ofList plain.text.reverse, .plain, none⟩, plain.endsLine, plain.after)

end WorkflowChain.Yaml
