import WorkflowChain.Yaml.BlockScalar
import WorkflowChain.Yaml.FlowScalar
import WorkflowChain.Yaml.Tag

/-! # Tokens of a document

A document is read as a list of tokens. Indentation becomes tokens of its own, which start and end
block collections. A key can look like a scalar at first: only the colon after it tells. So the
places where a key may have begun are remembered, and when the colon comes, the token for the key is
put where it belongs. The colon must stand in the same line, at most 1024 octets on.
-/

namespace WorkflowChain.Yaml

/-- A part of a document. -/
inductive Token where
  | directive (directive : Directive)
  | documentStart
  | documentEnd
  | blockSequenceStart
  | blockMappingStart
  | blockEnd
  | flowSequenceStart
  | flowSequenceEnd
  | flowMappingStart
  | flowMappingEnd
  | blockEntry
  | flowEntry
  | key
  | value
  | alias (name : String)
  | anchor (name : String)
  | tag (tag : WrittenTag)
  | scalar (scalar : Scalar)
  deriving DecidableEq, Repr

/-- A place where a key may have begun. -/
structure PossibleKey where
  /-- Where the key would stand in the list of tokens. -/
  place : Nat
  /-- Whether nothing but a key can stand there. -/
  isRequired : Bool
  start : Cursor

/-- How many octets there may be from the start of a key to its colon. -/
def keyReach : Nat := 1024

/-- The reader of tokens, between two of them. -/
structure Lexer where
  cursor : Cursor
  tokens : Array Token := #[]
  /-- The least column of what belongs to the innermost block collection. -/
  margin : Nat := 0
  /-- The margins of the collections around it, the innermost first. -/
  margins : List Nat := []
  /-- How many flow collections are open. -/
  flowDepth : Nat := 0
  /-- Whether a key may begin here. -/
  allowsKey : Bool := true
  /-- The possible key of the innermost flow collection, or of the blocks. -/
  candidate : Option PossibleKey := none
  /-- The possible keys of the collections around it, the innermost first. -/
  outerCandidates : List (Option PossibleKey) := []

namespace Lexer

/-- Whether a flow collection is open. -/
def inFlow (lexer : Lexer) : Bool := lexer.flowDepth > 0

/-- Add a token that ends at the given place. -/
def push (lexer : Lexer) (token : Token) (cursor : Cursor) : Lexer :=
  { lexer with tokens := lexer.tokens.push token, cursor }

/-- Add a token of some characters. -/
def pushMark (lexer : Lexer) (token : Token) (length : Nat) : Lexer :=
  lexer.push token (lexer.cursor.skip length)

/-- Whether it is not too late for the colon of a key. -/
def canReach (lexer : Lexer) (key : PossibleKey) : Bool :=
  lexer.cursor.line ≤ key.start.line && lexer.cursor.index ≤ key.start.index + keyReach

/-- Whether a possible key is given up that nothing else can stand for. -/
def missesKey (lexer : Lexer) (candidate : Option PossibleKey) : Bool :=
  candidate.any fun key => key.isRequired && !lexer.canReach key

/-- Give up keys for which it is too late, unless nothing else can stand there. -/
def dropLateKeys? (lexer : Lexer) : Option Lexer :=
  if (lexer.candidate :: lexer.outerCandidates).any lexer.missesKey then none
  else some { lexer with
    candidate := lexer.candidate.filter lexer.canReach
    outerCandidates := lexer.outerCandidates.map (Option.filter lexer.canReach) }

/-- Give up the innermost possible key, unless nothing else can stand there. -/
def dropKey? (lexer : Lexer) : Option Lexer :=
  if lexer.candidate.any PossibleKey.isRequired then none
  else some { lexer with candidate := none }

/-- Remember that a key may begin here. -/
def rememberKey? (lexer : Lexer) : Option Lexer :=
  if lexer.allowsKey then do
    let isRequired := !lexer.inFlow && lexer.margin = lexer.cursor.column + 1
    let lexer ← lexer.dropKey?
    return { lexer with candidate := some ⟨lexer.tokens.size, isRequired, lexer.cursor⟩ }
  else some lexer

/-- Open a block collection at a column, unless one with that indentation is open. Its token has the
given place. -/
def openBlock (lexer : Lexer) (column place : Nat) (token : Token) : Lexer :=
  if !lexer.inFlow && lexer.margin ≤ column then
    { lexer with
      margins := lexer.margin :: lexer.margins
      margin := column + 1
      tokens := lexer.tokens.insertIdxIfInBounds place token }
  else lexer

/-- Open a block collection here. -/
def openBlockHere (lexer : Lexer) (token : Token) : Lexer :=
  lexer.openBlock lexer.cursor.column lexer.tokens.size token

/-- Close the block collections whose margin is beyond a limit. The margins given are those around
the innermost collection. -/
def closeBlocks (limit : Nat) : List Nat → Lexer → Lexer
  | [], lexer => lexer
  | outer :: margins, lexer =>
    if lexer.margin > limit then
      closeBlocks limit margins
        { lexer with margin := outer, margins, tokens := lexer.tokens.push .blockEnd }
    else lexer

/-- Close the block collections to which nothing at this column can belong. -/
def closeDeeper (lexer : Lexer) : Lexer :=
  if lexer.inFlow then lexer else closeBlocks (lexer.cursor.column + 1) lexer.margins lexer

/-- Close all block collections. -/
def closeAll (lexer : Lexer) : Lexer :=
  if lexer.inFlow then lexer else closeBlocks 0 lexer.margins lexer

/-- Pass blank space, line breaks and comments. A line may begin with a byte order mark, which takes
a column of its own. The fuel bounds the number of lines. -/
def skipSpace? : Nat → Lexer → Option Lexer
  | 0, _ => none
  | fuel + 1, lexer =>
    let cursor := lexer.cursor
    let cursor :=
      if cursor.column = 0 ∧ cursor.next? = some (Char.ofNat 0xFEFF) then cursor.skip 1
      else cursor
    let allowsTab := lexer.inFlow || !lexer.allowsKey
    let cursor := cursor.skipWhile fun c => c = ' ' || (allowsTab && c = '\t')
    let cursor := if cursor.next? = some '#' then cursor.skipWhile (!isBreak ·) else cursor
    if cursor.lineBreak?.isSome then
      skipSpace? fuel
        { lexer with cursor := cursor.skipLine, allowsKey := !lexer.inFlow || lexer.allowsKey }
    else some { lexer with cursor }

/-- Open a flow collection. -/
def openFlow? (lexer : Lexer) (token : Token) : Option Lexer := do
  let lexer ← lexer.rememberKey?
  return { lexer.pushMark token 1 with
    flowDepth := lexer.flowDepth + 1
    allowsKey := true
    candidate := none
    outerCandidates := lexer.candidate :: lexer.outerCandidates }

/-- Close a flow collection. -/
def closeFlow? (lexer : Lexer) (token : Token) : Option Lexer := do
  let lexer ← lexer.dropKey?
  let lexer := { lexer.pushMark token 1 with allowsKey := false }
  match lexer.outerCandidates with
  | candidate :: outerCandidates =>
    return { lexer with candidate, outerCandidates, flowDepth := lexer.flowDepth - 1 }
  | [] => return lexer

/-- Read the comma between entries of a flow collection. -/
def flowEntry? (lexer : Lexer) : Option Lexer := do
  let lexer ← lexer.dropKey?
  return { lexer.pushMark .flowEntry 1 with allowsKey := true }

/-- Read the dash before an item of a block list. -/
def blockEntry? (lexer : Lexer) : Option Lexer :=
  if !lexer.inFlow && !lexer.allowsKey then none
  else do
    let lexer ← (lexer.openBlockHere .blockSequenceStart).dropKey?
    return { lexer.pushMark .blockEntry 1 with allowsKey := true }

/-- Read the question mark before a key. -/
def key? (lexer : Lexer) : Option Lexer :=
  if !lexer.inFlow && !lexer.allowsKey then none
  else do
    let lexer ← (lexer.openBlockHere .blockMappingStart).dropKey?
    return { lexer.pushMark .key 1 with allowsKey := !lexer.inFlow }

/-- Read the colon after a key. -/
def value? (lexer : Lexer) : Option Lexer :=
  match lexer.candidate with
  | some key =>
    let lexer :=
      { lexer with
        tokens := lexer.tokens.insertIdxIfInBounds key.place .key
        candidate := none
        allowsKey := false }
    let lexer := lexer.openBlock key.start.column key.place .blockMappingStart
    some (lexer.pushMark .value 1)
  | none =>
    if lexer.inFlow then some { lexer.pushMark .value 1 with allowsKey := false }
    else if !lexer.allowsKey then none
    else some ((lexer.openBlockHere .blockMappingStart).pushMark .value 1)

/-- Read a part that can begin a key, such as an anchor or a quoted scalar. -/
def content? (lexer : Lexer) (read : Cursor → Option (Token × Cursor)) : Option Lexer := do
  let lexer ← lexer.rememberKey?
  let (token, cursor) ← read lexer.cursor
  return { lexer.push token cursor with allowsKey := false }

/-- Read a plain scalar. After a line break, a key may begin again. -/
def plain? (lexer : Lexer) : Option Lexer := do
  let lexer ← lexer.rememberKey?
  let (scalar, endsLine, cursor) ← plainScalar? lexer.inFlow lexer.margin lexer.cursor
  return { lexer.push (.scalar scalar) cursor with allowsKey := endsLine }

/-- Read a scalar of a block. -/
def blockScalar? (lexer : Lexer) : Option Lexer := do
  let lexer ← lexer.dropKey?
  let (scalar, cursor) ← BlockScalar.read? lexer.margin lexer.cursor
  return { lexer.push (.scalar scalar) cursor with allowsKey := true }

/-- Read the marks at the boundary of a document. -/
def boundary? (lexer : Lexer) (token : Token) : Option Lexer := do
  let lexer ← lexer.closeAll.dropKey?
  return { lexer.pushMark token 3 with allowsKey := false }

/-- Read a directive. -/
def directive? (lexer : Lexer) : Option Lexer := do
  let lexer ← lexer.closeAll.dropKey?
  let (directive, cursor) ← Directive.read? lexer.cursor
  return { lexer.push (.directive directive) cursor with allowsKey := false }

/-- The characters that mean something where a part of a document begins. -/
def isIndicator (c : Char) : Bool := c ∈ "-?:,[]\x7b\x7d#&*!|>'\"%@`".toList

/-- Whether a plain scalar can begin with a character, given what follows it. -/
def beginsPlain (lexer : Lexer) (c : Char) : Bool :=
  (!isGap c && !isIndicator c)
    || (c = '-' && !(lexer.cursor.at? 1).any isGap)
    || (!lexer.inFlow && (c = '?' || c = ':') && !lexer.cursor.hasGapAt 1)

/-- Read the part of a document that begins with the given character. -/
def next? (lexer : Lexer) (c : Char) : Option Lexer :=
  let cursor := lexer.cursor
  let isIsolated := cursor.hasGapAt 1
  if cursor.column = 0 && c = '%' then lexer.directive?
  else if cursor.isAtMark '-' then lexer.boundary? .documentStart
  else if cursor.isAtMark '.' then lexer.boundary? .documentEnd
  else if c = '[' then lexer.openFlow? .flowSequenceStart
  else if c = '\x7b' then lexer.openFlow? .flowMappingStart
  else if c = ']' then lexer.closeFlow? .flowSequenceEnd
  else if c = '\x7d' then lexer.closeFlow? .flowMappingEnd
  else if c = ',' then lexer.flowEntry?
  else if c = '-' && isIsolated then lexer.blockEntry?
  else if c = '?' && (lexer.inFlow || isIsolated) then lexer.key?
  else if c = ':' && (lexer.inFlow || isIsolated) then lexer.value?
  else if c = '*' then
    lexer.content? fun cursor => (anchorName? cursor).map fun (name, rest) => (.alias name, rest)
  else if c = '&' then
    lexer.content? fun cursor => (anchorName? cursor).map fun (name, rest) => (.anchor name, rest)
  else if c = '!' then
    lexer.content? fun cursor =>
      (WrittenTag.read? lexer.inFlow cursor).map fun (tag, rest) => (.tag tag, rest)
  else if !lexer.inFlow && (c = '|' || c = '>') then lexer.blockScalar?
  else if c = '\'' || c = '"' then
    lexer.content? fun cursor =>
      (quotedScalar? cursor).map fun (scalar, rest) => (.scalar scalar, rest)
  else if lexer.beginsPlain c then lexer.plain?
  else none

/-- Read everything up to the end of the text. The fuel bounds the number of steps. -/
def run? : Nat → Lexer → Option Lexer
  | 0, _ => none
  | fuel + 1, lexer => do
    let lexer ← lexer.skipSpace? (lexer.cursor.rest.length + 1)
    let lexer ← lexer.dropLateKeys?
    let lexer := lexer.closeDeeper
    match lexer.cursor.next? with
    | none => lexer.closeAll.dropKey?
    | some c => (lexer.next? c).bind fun lexer => run? fuel lexer

end Lexer

namespace Token

/-- The tokens of a text, if all its characters are allowed and it consists of tokens. -/
def scan? (text : String) : Option (List Token) :=
  if text.toList.all isAllowed then
    let lexer : Lexer := { cursor := .start text }
    (lexer.run? (text.length + 1)).map fun lexer => lexer.tokens.toList
  else none

end Token

end WorkflowChain.Yaml
