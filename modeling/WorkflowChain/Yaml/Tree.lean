import WorkflowChain.Data.Table
import WorkflowChain.Yaml.Token

/-! # Documents as trees

The tokens of a document are read as a tree of scalars, lists and maps. An empty place is an empty
plain scalar. Anchors are numbered in the order in which their names come up: each new name gets the
number of names known before. An alias refers to an anchor that came before it.
-/

namespace WorkflowChain.Yaml

/-- The content of a document, or a part of it. -/
inductive Tree where
  | scalar (anchor : Option Nat) (written : Scalar)
  | list (anchor : Option Nat) (tag : Option Tag) (items : List Tree)
  | map (anchor : Option Nat) (tag : Option Tag) (entries : List (Tree × Tree))
  | alias (anchor : Nat)
  deriving Repr, Inhabited

namespace Tree

/-- An empty place. -/
def blank : Tree := .scalar none ⟨"", .plain, none⟩

/-- What a reader of trees has in hand. -/
structure Input where
  tokens : List Token
  /-- The numbers of the names of anchors. -/
  names : Table Nat := []

/-- A reader of trees. -/
abbrev Reader := StateT Input Option

namespace Reader

/-- The next token, which stays in place. -/
def peek : Reader (Option Token) := do return (← get).tokens.head?

/-- Drop the next token. -/
def drop : Reader Unit := modify fun input => { input with tokens := input.tokens.tail }

/-- Drop the next token if it is the given one, and tell whether it was. -/
def take (token : Token) : Reader Bool := do
  if (← peek) = some token then
    drop
    return true
  else return false

/-- Drop the comma before an entry of a flow collection, and tell whether it was there. The first
entry needs none. -/
def comma (isFirst : Bool) : Reader Bool := if isFirst then pure true else take .flowEntry

/-- The number of an anchor with the given name. -/
def define (name : String) : Reader Nat := do
  let input ← get
  let number := input.names.length
  set { input with names := input.names.put name number }
  return number

/-- What is said about a node in front of it. -/
structure Properties where
  anchor : Option Nat := none
  tag : Option WrittenTag := none

/-- The anchor here, if there is one. -/
def anchor : Reader (Option Nat) := do
  match ← peek with
  | some (.anchor name) =>
    drop
    return some (← define name)
  | _ => return none

/-- The tag here, if there is one. -/
def tag : Reader (Option WrittenTag) := do
  match ← peek with
  | some (.tag tag) =>
    drop
    return some tag
  | _ => return none

/-- The properties of a node, in either order. -/
def properties : Reader Properties := do
  match ← anchor with
  | some number => return ⟨some number, ← tag⟩
  | none =>
    match ← tag with
    | some tag => return ⟨← anchor, some tag⟩
    | none => return {}

end Reader

/-- What the handles of tags stand for. -/
abbrev Handles := Table TagText

/-- What a written tag says, if its handle is known. -/
def fullTag? (handles : Handles) (tag : WrittenTag) : Option Tag :=
  if tag.handle.isEmpty then some (.ofText tag.suffix)
  else (handles.lookup tag.handle).map fun meaning => .ofText (meaning ++ tag.suffix)

/-- Whether a token ends an entry of a block list. -/
def endsItem (token : Option Token) : Bool := token = some .blockEntry || token = some .blockEnd

/-- Whether a token ends a key or a value of a block map. -/
def endsBlockPart (token : Option Token) : Bool :=
  token = some .key || token = some .value || token = some .blockEnd

/-- Whether a token ends a key of a flow collection that is closed by the given token. -/
def endsFlowPart (closing : Token) (token : Option Token) : Bool :=
  token = some .flowEntry || token = some closing

mutual

/-- The node at the front. A list without indentation of its own is allowed for `indentless`, and a
block collection for `inBlock`. The fuel bounds the number of nested calls. -/
def node (handles : Handles) : Nat → Bool → Bool → Reader Tree
  | 0, _, _ => failure
  | fuel + 1, inBlock, indentless => do
    match ← Reader.peek with
    | some (.alias name) =>
      Reader.drop
      match (← get).names.lookup name with
      | some number => return .alias number
      | none => failure
    | _ =>
      let properties ← Reader.properties
      let anchor := properties.anchor
      let tag ← match properties.tag with
        | none => pure none
        | some tag => match fullTag? handles tag with
          | some tag => pure (some tag)
          | none => failure
      match ← Reader.peek with
      | some (.scalar written) =>
        Reader.drop
        return .scalar anchor { written with tag }
      | some .flowSequenceStart =>
        Reader.drop
        return .list anchor tag (← flowItems handles fuel true)
      | some .flowMappingStart =>
        Reader.drop
        return .map anchor tag (← flowEntries handles fuel true)
      | token =>
        if indentless && token = some .blockEntry then
          return .list anchor tag (← indentlessItems handles fuel)
        else if inBlock && token = some .blockSequenceStart then
          Reader.drop
          return .list anchor tag (← blockItems handles fuel)
        else if inBlock && token = some .blockMappingStart then
          Reader.drop
          return .map anchor tag (← blockEntries handles fuel)
        else if anchor.isSome || tag.isSome then return .scalar anchor ⟨"", .plain, tag⟩
        else failure

/-- The items of a block list, up to its end. -/
def blockItems (handles : Handles) : Nat → Reader (List Tree)
  | 0 => failure
  | fuel + 1 => do
    if ← Reader.take .blockEntry then
      let item ← if endsItem (← Reader.peek) then pure blank else node handles fuel true false
      return item :: (← blockItems handles fuel)
    else if ← Reader.take .blockEnd then return []
    else failure

/-- The items of a list in a block map, without indentation of its own. -/
def indentlessItems (handles : Handles) : Nat → Reader (List Tree)
  | 0 => failure
  | fuel + 1 => do
    if ← Reader.take .blockEntry then
      let next ← Reader.peek
      let item ←
        if endsItem next || endsBlockPart next then pure blank else node handles fuel true false
      return item :: (← indentlessItems handles fuel)
    else return []

/-- The entries of a block map, up to its end. -/
def blockEntries (handles : Handles) : Nat → Reader (List (Tree × Tree))
  | 0 => failure
  | fuel + 1 => do
    if ← Reader.take .key then
      let key ← if endsBlockPart (← Reader.peek) then pure blank else node handles fuel true true
      let value ←
        if ← Reader.take .value then
          if endsBlockPart (← Reader.peek) then pure blank else node handles fuel true true
        else pure blank
      return (key, value) :: (← blockEntries handles fuel)
    else if ← Reader.take .blockEnd then return []
    else failure

/-- The items of a flow list, up to its end. A comma has to stand before all but the first. -/
def flowItems (handles : Handles) : Nat → Bool → Reader (List Tree)
  | 0, _ => failure
  | fuel + 1, isFirst => do
    if ← Reader.take .flowSequenceEnd then return []
    else if !(← Reader.comma isFirst) then failure
    else if ← Reader.take .key then
      let entry ← flowPair handles fuel
      return .map none none [entry] :: (← flowItems handles fuel false)
    else if ← Reader.take .flowSequenceEnd then return []
    else
      let item ← node handles fuel false false
      return item :: (← flowItems handles fuel false)

/-- The single entry of a map that stands in a flow list without braces. The token after an empty
key does not count. -/
def flowPair (handles : Handles) : Nat → Reader (Tree × Tree)
  | 0 => failure
  | fuel + 1 => do
    let next ← Reader.peek
    let key ←
      if next = some .value || endsFlowPart .flowSequenceEnd next then do
        Reader.drop
        pure blank
      else node handles fuel false false
    let value ←
      if ← Reader.take .value then
        if endsFlowPart .flowSequenceEnd (← Reader.peek) then pure blank
        else node handles fuel false false
      else pure blank
    return (key, value)

/-- The entries of a flow map, up to its end. A comma has to stand before all but the first. -/
def flowEntries (handles : Handles) : Nat → Bool → Reader (List (Tree × Tree))
  | 0, _ => failure
  | fuel + 1, isFirst => do
    if ← Reader.take .flowMappingEnd then return []
    else if !(← Reader.comma isFirst) then failure
    else if ← Reader.take .key then
      let next ← Reader.peek
      let key ←
        if next = some .value || endsFlowPart .flowMappingEnd next then pure blank
        else node handles fuel false false
      let value ←
        if ← Reader.take .value then
          if endsFlowPart .flowMappingEnd (← Reader.peek) then pure blank
          else node handles fuel false false
        else pure blank
      return (key, value) :: (← flowEntries handles fuel false)
    else if ← Reader.take .flowMappingEnd then return []
    else
      let key ← node handles fuel false false
      return (key, blank) :: (← flowEntries handles fuel false)

end

/-- What handles stand for unless a document says otherwise. -/
def standardHandles : Handles := [("!", [some '!']), ("!!", Tag.standard "")]

/-- Whether a document of the given version can be read. -/
def isReadable (major minor : Nat) : Bool := major = 1 && (minor = 1 || minor = 2)

/-- Read directives, and tell what handles stand for. At most one version may be given, and each
handle at most once. -/
def directives? : List Token → Bool → Handles → Option (Handles × List Token)
  | .directive (.version major minor) :: rest, hasVersion, handles =>
    if hasVersion || !isReadable major minor then none else directives? rest true handles
  | .directive (.handle name meaning) :: rest, hasVersion, handles =>
    if name ∈ handles.keys then none
    else directives? rest hasVersion (handles ++ [(name, meaning)])
  | rest, _, handles => some (handles ++ standardHandles, rest)

/-- Whether a document without content ends at a token. -/
def endsDocument : Option Token → Bool
  | none | some .documentStart | some .documentEnd | some (.directive _) => true
  | some _ => false

/-- The tree of the only document, if there is one, and the remaining tokens. -/
def document? (tokens : List Token) : Option (Option Tree × List Token) := do
  let fuel := 3 * tokens.length + 3
  match tokens with
  | [] => return (none, [])
  | .documentStart :: _ | .directive _ :: _ =>
    let (handles, rest) ← directives? tokens false []
    match rest with
    | .documentStart :: rest =>
      if endsDocument rest.head? then return (some blank, rest)
      else
        let (tree, input) ← (node handles fuel true false).run { tokens := rest }
        return (some tree, input.tokens)
    | _ => none
  | _ =>
    let (tree, input) ← (node standardHandles fuel true false).run { tokens }
    return (some tree, input.tokens)

/-- The tree of a text with at most one document; `some none` if there is no document. -/
def read? (text : String) : Option (Option Tree) := do
  let (tree, rest) ← document? (← Token.scan? text)
  if rest.all (· = .documentEnd) then some tree else none

end Tree

end WorkflowChain.Yaml
