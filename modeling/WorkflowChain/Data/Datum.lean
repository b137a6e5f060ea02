import WorkflowChain.Data.Value
import WorkflowChain.Yaml.Scalar

/-! # Data as it was read

A datum is what a reader hands to the decoders: a value, or a text or document that was
parsed but not yet understood. It differs from a value in five ways. A scalar of a document
has no kind until it is known what is expected, and neither has a collection with a tag of its
own. An empty document is an empty datum. A part that cannot be represented (a number out of
range, a nesting that is too deep) is broken, which matters only if somebody looks at it. And
the entries of a map are kept as written, repeated keys included.

`Datum.resolve` decides the kind of everything at once, for readers that try several shapes.
-/

namespace WorkflowChain

/-- A datum that was read and not yet decoded. -/
inductive Datum where
  /-- A single datum that tells its own kind. -/
  | leaf (datum : Leaf)
  /-- A scalar of a document. -/
  | scalar (written : Yaml.Scalar)
  /-- An empty document. -/
  | void
  /-- A part that cannot be decoded. -/
  | broken
  /-- A list; a positional one may stand for a record, its fields in order. -/
  | list (positional : Bool) (items : List Datum)
  /-- A map, its entries as written. -/
  | map (entries : List (Datum × Datum))
  /-- A collection with a tag of its own. It can be decoded only where its shape is expected. -/
  | tagged (collection : Datum)
  deriving Repr, Inhabited

namespace Datum

/-- A text that tells its own kind. -/
abbrev text (value : String) : Datum := .leaf (.text value)

mutual

/-- A value as a datum. -/
def ofValue : Value → Datum
  | .null => .leaf .null
  | .bool value => .leaf (.bool value)
  | .int value => .leaf (.int value)
  | .float value => .leaf (.float value)
  | .text value => .leaf (.text value)
  | .list items => .list true (ofItems items)
  | .map entries => .map (ofEntries entries)

/-- The items of a list as data. -/
def ofItems : List Value → List Datum
  | [] => []
  | item :: rest => ofValue item :: ofItems rest

/-- The entries of a map as data. -/
def ofEntries : List (String × Value) → List (Datum × Datum)
  | [] => []
  | (key, value) :: rest => (text key, ofValue value) :: ofEntries rest

end

mutual

/-- The datum with the kind of every part decided, if every part has one. -/
def resolve : Datum → Option Datum
  | .leaf datum => some (.leaf datum)
  | .scalar written => written.resolve.map .leaf
  | .void => some (.leaf .null)
  | .broken => none
  | .list _ items => (resolveItems items).map (.list true)
  | .map entries => (resolveEntries entries).map .map
  | .tagged _ => none

/-- Resolve all items of a list. -/
def resolveItems : List Datum → Option (List Datum)
  | [] => some []
  | item :: rest => do
    let item ← resolve item
    let rest ← resolveItems rest
    return item :: rest

/-- Resolve all keys and values of a map. -/
def resolveEntries : List (Datum × Datum) → Option (List (Datum × Datum))
  | [] => some []
  | (key, value) :: rest => do
    let key ← resolve key
    let value ← resolve value
    let rest ← resolveEntries rest
    return (key, value) :: rest

end

/-- The text of a datum where a text is expected: a scalar is taken as it stands. -/
def text? : Datum → Option String
  | .leaf (.text value) => some value
  | .scalar written => some written.text
  | _ => none

/-- The value of a single datum; a number that is not finite is null. -/
def valueOfLeaf : Leaf → Value
  | .null => .null
  | .bool value => .bool value
  | .int value => .int value
  | .float value => if value.isFinite then .float value else .null
  | .text value => .text value

mutual

/-- The datum as a value without a fixed shape, if all its parts can be decoded. Keys are taken as
texts, and the keys of each map are brought in order. -/
def toValue? : Datum → Option Value
  | .leaf datum => some (valueOfLeaf datum)
  | .scalar written => written.resolve.map valueOfLeaf
  | .void => some .null
  | .broken => none
  | .list _ items => (toItems? items).map .list
  | .map entries => (toEntries? entries).map fun entries => .map (Table.sorted entries)
  | .tagged _ => none

/-- The items of a list as values. -/
def toItems? : List Datum → Option (List Value)
  | [] => some []
  | item :: rest => do
    let item ← toValue? item
    let rest ← toItems? rest
    return item :: rest

/-- The entries of a map, in their order, with texts as keys and values. -/
def toEntries? : List (Datum × Datum) → Option (List (String × Value))
  | [] => some []
  | (key, value) :: rest => do
    let key ← key.text?
    let value ← toValue? value
    let rest ← toEntries? rest
    return (key, value) :: rest

end

end Datum

/-! ## What is looked at

A decoder looks at some parts of a datum and passes over others, such as the values of keys that it
does not know. In a document this makes a difference: aliases are replaced only in the parts that
are looked at. An interest tells which parts these are.
-/

/-- What a decoder looks at in a part of a document. -/
inductive Interest where
  /-- Nothing; the part is passed over. -/
  | nothing
  /-- The part itself, and nothing inside it if it is a collection. -/
  | itself
  /-- The part and everything inside it. -/
  | all
  /-- The items of a list. -/
  | items (each : Interest)
  /-- The keys and the values of a map. -/
  | values (each : Interest)
  /-- The keys of a map, and the value of every key as the key asks for. -/
  | fields (each : String → Interest)
  /-- The same as in the nearest map around the part whose keys ask for themselves. -/
  | again

end WorkflowChain
