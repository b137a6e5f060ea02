import WorkflowChain.Data.Decode
import WorkflowChain.Iri

/-! # Nodes of the workflow graph

A node is one description with its place in the graph: its number, what it consumes, what it
produces, and which tools stand on either side of its artifact.
-/

namespace WorkflowChain

/-- A side of a tool. -/
inductive Direction where
  | input
  | output
  deriving DecidableEq, Repr

namespace Direction

/-- The name of a direction. -/
def name : Direction → String
  | .input => "input"
  | .output => "output"

/-- The names of all directions. -/
def names : List String := [input.name, output.name]

/-- The direction of a name. -/
def ofName (name : String) : Decoded Direction :=
  if name = input.name then .ok .input
  else if name = output.name then .ok .output
  else .error (.unknownVariant name names)

end Direction

/-- The producer side of a node that is loaded and not produced. -/
def datasetKind : String := "dataset"

/-- What produces and what consumes the artifact of a node: nothing (an empty text), a dataset on
the producer side, or the identifier of a tool. -/
structure ResourceKind where
  output : String := ""
  input : String := ""
  deriving DecidableEq, Repr

namespace ResourceKind

/-- The sides of a dataset that nothing consumes yet. -/
def dataset : ResourceKind := { output := datasetKind }

/-- One side of the artifact. -/
def get (kind : ResourceKind) : Direction → String
  | .input => kind.input
  | .output => kind.output

end ResourceKind

/-- A node of the workflow graph. -/
structure Node where
  /-- The number of the node, which is its place in the graph. -/
  id : Nat
  identifier : String
  depth : Nat
  kind : ResourceKind
  /-- The nodes that this one consumes. -/
  inputs : List Nat
  /-- The nodes that this one produces. -/
  outputs : List Nat
  deriving DecidableEq, Repr

namespace Node

/-- Whether the artifact of the node is loaded and not produced. -/
def isDataset (node : Node) : Bool := node.kind.output = datasetKind

/-- Whether the node produces another one. -/
def isStep (node : Node) : Bool := !node.outputs.isEmpty

/-- Whether the node is an isolated artifact with a producer side. -/
def isContextNode (node : Node) : Bool :=
  !node.kind.output.isEmpty && node.inputs.isEmpty && node.outputs.isEmpty

/-- The name of the slot, and of the stage, for one side of the node. -/
def slot (node : Node) (direction : Direction) : String :=
  "datanode_" ++ toString node.id ++ "_" ++ direction.name

/-- The name of the node as a step. -/
def stepName (node : Node) : String := "step_" ++ toString node.id

/-- The local name of the identifier. -/
def suffix (node : Node) : String := Iri.suffix node.identifier

/-- The compact key of the identifier. -/
def compactIdentifier (node : Node) : String := Iri.compact node.identifier

/-- Numbers in brackets. -/
def bracketed (numbers : List Nat) : String :=
  "[" ++ Text.joinWith ", " (numbers.map toString) ++ "]"

/-- The node in one line. -/
def describe (node : Node) : String :=
  "Node " ++ toString node.id ++ ": " ++ node.identifier ++ " (output: '" ++ node.kind.output
    ++ "', input: '" ++ node.kind.input ++ "')"
    ++ (if node.inputs.isEmpty then "" else " inputs: " ++ bracketed node.inputs)
    ++ (if node.outputs.isEmpty then "" else " outputs: " ++ bracketed node.outputs)

/-- A node as a value. -/
def encode (node : Node) : Value :=
  .map [("id", .int node.id), ("identifier", .text node.identifier), ("depth", .int node.depth),
    ("resource_kind",
      .map [("output", .text node.kind.output), ("input", .text node.kind.input)]),
    ("inputs", .list (node.inputs.map fun (id : Nat) => Value.int id)),
    ("outputs", .list (node.outputs.map fun (id : Nat) => Value.int id))]

end Node

/-! ## Reading -/

namespace ResourceKind

/-- How the two sides of an artifact are read. -/
def reader : RecordReader Direction (Option String × Option String) ResourceKind where
  name := "ResourceKind"
  fields := [(.output, Direction.output.name), (.input, Direction.input.name)]
  ofKey key := (Direction.ofName key).toOption
  start := (none, none)
  has
    | .output, draft => draft.1.isSome
    | .input, draft => draft.2.isSome
  take
    | .output, datum, draft => do return (some (← datum.decodeText), draft.2)
    | .input, datum, draft => do return (draft.1, some (← datum.decodeText))
  finish absent draft := do
    return { output := ← required (absent .output) draft.1,
             input := ← required (absent .input) draft.2 }

end ResourceKind

namespace Node

/-- The fields of a node. -/
inductive Field where
  | id
  | identifier
  | depth
  | kind
  | inputs
  | outputs
  deriving DecidableEq, Repr

/-- The fields of a node that were read so far. -/
structure Draft where
  id : Option Nat := none
  identifier : Option String := none
  depth : Option Nat := none
  kind : Option ResourceKind := none
  inputs : Option (List Nat) := none
  outputs : Option (List Nat) := none

/-- How a node is read. -/
def reader : RecordReader Field Draft Node where
  name := "WorkflowNode"
  fields := [(.id, "id"), (.identifier, "identifier"), (.depth, "depth"),
    (.kind, "resource_kind"), (.inputs, "inputs"), (.outputs, "outputs")]
  ofKey
    | "id" => some .id
    | "identifier" => some .identifier
    | "depth" => some .depth
    | "resource_kind" => some .kind
    | "inputs" => some .inputs
    | "outputs" => some .outputs
    | _ => none
  start := {}
  has
    | .id, draft => draft.id.isSome
    | .identifier, draft => draft.identifier.isSome
    | .depth, draft => draft.depth.isSome
    | .kind, draft => draft.kind.isSome
    | .inputs, draft => draft.inputs.isSome
    | .outputs, draft => draft.outputs.isSome
  take
    | .id, datum, draft => do return { draft with id := some (← datum.decodeCount) }
    | .identifier, datum, draft => do
      return { draft with identifier := some (← datum.decodeText) }
    | .depth, datum, draft => do return { draft with depth := some (← datum.decodeCount) }
    | .kind, datum, draft => do
      return { draft with kind := some (← ResourceKind.reader.read datum) }
    | .inputs, datum, draft => do
      return { draft with inputs := some (← datum.decodeList Datum.decodeCount) }
    | .outputs, datum, draft => do
      return { draft with outputs := some (← datum.decodeList Datum.decodeCount) }
  finish absent draft := do
    return { id := ← required (absent .id) draft.id,
             identifier := ← required (absent .identifier) draft.identifier,
             depth := ← required (absent .depth) draft.depth,
             kind := ← required (absent .kind) draft.kind,
             inputs := ← required (absent .inputs) draft.inputs,
             outputs := ← required (absent .outputs) draft.outputs }
  look
    | .kind => ResourceKind.reader.interest
    | .inputs | .outputs => .items .itself
    | _ => .itself

/-- The node that a datum stands for. -/
def decode (datum : Datum) : Decoded Node := reader.read datum

/-- How a node is decoded. -/
def decoder : Decoder Node := reader.decoder

end Node

end WorkflowChain
