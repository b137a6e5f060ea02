import WorkflowChain.Compile.Settings
import WorkflowChain.Knowledge.Store
import WorkflowChain.Pipeline.Adapter

/-! # Assembling fragments

The fragment over a list of nodes loads or converts the artifact of each node on the source side
and, unless it is the final one, handles it for its consumer on the sink side. The final fragment
exports what tools produced and has no sinks of its own.
-/

namespace WorkflowChain

/-- What is worth telling about a fragment. -/
inductive Warning where
  /-- A final output is a dataset; it is loaded and not exported. -/
  | finalDataset (identifier : String)
  deriving DecidableEq, Repr

/-- The text of a warning. -/
def Warning.message : Warning → String
  | .finalDataset identifier =>
    "final output '" ++ identifier ++ "' is a dataset with no downstream sink, using it as-is"

/-- A fragment with the warnings about it. -/
structure Assembly where
  fragment : Fragment
  warnings : List Warning
  deriving Repr

namespace Assembly

/-- The function that turns an artifact into a file. -/
def conversionFunction : String := "aiidacuds/datanode2file"

/-- The function that exports an artifact. -/
def exportFunction : String := "aiidacuds/export"

/-- The stages of the templates for one side of a node: the last has the name of the slot, those
before it have numbers in addition. -/
def templateStages (node : Node) (direction : Direction) (templates : List Template) : List Stage :=
  templates.mapIdx fun place template =>
    let base := node.slot direction
    Stage.ofTemplate template
      (if place + 1 = templates.length then base else base ++ "_" ++ toString place)

/-- The stage that converts an artifact of the given native type. -/
def conversionStage (node : Node) (native : String) : Stage :=
  let slot := node.slot .output
  .function .conversion (slot ++ "_convert") conversionFunction
    [("datanode", .text slot), ("datanodeType", .text native)]

/-- The stage that exports an artifact to the place where its producer's templates say. -/
def exportStage (node : Node) (templates : List Template) (target : Option Target) :
    Except Failure Stage :=
  match templates.findSome? Template.downloadUrl? with
  | none =>
    .error (.notFound node.identifier
      ("download location in output of tool '" ++ node.kind.output ++ "'"))
  | some location =>
    .ok (.function .conversion (node.slot .output) exportFunction
      ([("datanode", .text (node.slot .output))]
        ++ (target.map fun target => ("documentation", target.encode)).toList
        ++ [("location", .text location)]))

/-- The stages on the source side of a node. -/
def sourceStages (store : Store) (isFinal : Bool) (target : Option Target) (node : Node) :
    Except Failure (List Stage) := do
  if node.isDataset then
    return templateStages node .output (← store.datasetTemplates node.identifier)
  else if node.kind.output.isEmpty then return []
  else
    let templates ← store.toolTemplates node.kind.output .output node.identifier
    if isFinal then return [← exportStage node templates target]
    else
      let native ← store.datanodeType node.identifier
      return conversionStage node native :: templateStages node .output templates

/-- The stages on the sink side of a node. -/
def sinkStages (store : Store) (isFinal : Bool) (node : Node) : Except Failure (List Stage) := do
  if isFinal || node.kind.input.isEmpty then return []
  else
    let templates ← store.toolTemplates node.kind.input .input node.identifier
    return templateStages node .input templates

/-- The stages of one node, with their sides. -/
def nodeStages (store : Store) (isFinal : Bool) (target : Option Target) (node : Node) :
    Except Failure (List (Direction × Stage)) := do
  let sources ← sourceStages store isFinal target node
  let sinks ← sinkStages store isFinal node
  return sources.map (Direction.output, ·) ++ sinks.map (Direction.input, ·)

/-- The names of the stages on their sides. -/
def sidesOf (stages : List (Direction × Stage)) : PipeSides where
  output := (stages.filter (·.1 = .output)).map (·.2.name)
  input := (stages.filter (·.1 = .input)).map (·.2.name)

/-- The warnings about one node. -/
def nodeWarnings (isFinal : Bool) (node : Node) : List Warning :=
  if isFinal && node.isDataset then [.finalDataset node.identifier] else []

/-- The fragment over a list of nodes. -/
def ofNodes (store : Store) (nodes : List Node) (isFinal : Bool) (target : Option Target) :
    Except Failure Assembly := do
  if let some target := target then target.check
  let stages := (← nodes.mapM (nodeStages store isFinal target)).flatten
  let (stages, sides) ← decorate (stages.map Prod.snd) (sidesOf stages)
  return ⟨⟨stages, sides.pipe⟩, nodes.flatMap (nodeWarnings isFinal)⟩

/-- The stages of a dataset in a plain pipeline, named after the dataset and the strategy. -/
def datasetStages (store : Store) (identifier : String) : Except Failure (List Stage) := do
  let templates ← store.datasetTemplates identifier
  return templates.map fun template =>
    Stage.ofTemplate template (Iri.suffix identifier ++ "_" ++ template.strategy)

/-- The fragment that runs all strategies of the given datasets one after the other. -/
def ofDatasets (store : Store) (identifiers : List String) : Except Failure Fragment := do
  let stages := (← identifiers.mapM (datasetStages store)).flatten
  checkUniqueNames stages
  return ⟨stages, Text.joinWith pipeSeparator (stages.map Stage.name)⟩

end Assembly

end WorkflowChain
