import WorkflowChain.Data.Decode

/-! # Execution chains

A chain is the sequence of steps that the execution engine runs. A step runs a tool on files, or a
pipeline on a stored fragment. A step has no tag in a document: it is a tool step if it can be read
as one, else a pipeline step. In the same way a file is bound to a slot if it can be, else to a
template.
-/

namespace WorkflowChain

/-- A reference to a file. -/
structure FileRef where
  reference : String
  deriving DecidableEq, Repr

namespace FileRef

/-- The reference to a file in the folder of the chain. -/
def sibling (fileName : String) : FileRef := ⟨"file:__DIR__/" ++ fileName⟩

/-- A reference as a value. -/
def encode (file : FileRef) : Value := .map [("$ref", .text file.reference)]

/-- How a reference is read. -/
def reader : RecordReader Unit (Option String) FileRef where
  name := "FileRef"
  fields := [((), "$ref")]
  ofKey key := if key = "$ref" then some () else none
  start := none
  has _ draft := draft.isSome
  take _ datum _ := do return some (← datum.decodeText)
  finish absent draft := do return ⟨← required (absent ()) draft⟩

end FileRef

/-- Where a file of a tool comes from. -/
inductive FileBinding where
  /-- From a slot of the context, given by its reference. -/
  | node (filename reference : String)
  /-- From a fixed place. -/
  | template (filename uri : String)
  deriving DecidableEq, Repr

namespace FileBinding

/-- The name of the file. -/
def filename : FileBinding → String
  | .node filename _ => filename
  | .template filename _ => filename

/-- Whether the file comes from a slot. -/
def isNode : FileBinding → Bool
  | .node _ _ => true
  | .template _ _ => false

/-- A binding as a value. -/
def encode : FileBinding → Value
  | .node filename slot => .map [("filename", .text filename), ("node", .text slot)]
  | .template filename uri => .map [("filename", .text filename), ("template", .text uri)]

/-- The fields of a binding: the name and the place. -/
inductive Field where
  | filename
  | source
  deriving DecidableEq, Repr

/-- How a binding is read whose place has the given key. -/
def reader (key : String) (make : String → String → FileBinding) :
    RecordReader Field (Option String × Option String) FileBinding where
  name := "FileBinding"
  fields := [(.filename, "filename"), (.source, key)]
  ofKey name :=
    if name = "filename" then some .filename else if name = key then some .source else none
  start := (none, none)
  has
    | .filename, draft => draft.1.isSome
    | .source, draft => draft.2.isSome
  take
    | .filename, datum, draft => do return (some (← datum.decodeText), draft.2)
    | .source, datum, draft => do return (draft.1, some (← datum.decodeText))
  finish absent draft := do
    return make (← required (absent .filename) draft.1) (← required (absent .source) draft.2)

/-- The binding that a datum stands for; it has to be a map. -/
def decode (datum : Datum) : Decoded FileBinding :=
  match datum.resolve with
  | none => .error .unreadable
  | some (.map entries) =>
    match (reader "node" .node).readEntries entries with
    | .ok binding => .ok binding
    | .error _ =>
      match (reader "template" .template).readEntries entries with
      | .ok binding => .ok binding
      | .error _ => .error (.noVariant "FileBinding")
  | some _ => .error (.noVariant "FileBinding")

/-- How a binding is decoded. -/
def decoder : Decoder FileBinding := ⟨decode, .all⟩

end FileBinding

/-- What a tool is run with. -/
structure ToolInputs where
  command : String
  arguments : List String
  files : Table FileBinding
  outputs : List String
  deriving DecidableEq, Repr

namespace ToolInputs

/-- The fields of the inputs of a tool. -/
inductive Field where
  | command
  | arguments
  | files
  | outputs
  deriving DecidableEq, Repr

/-- The inputs of a tool that were read so far. -/
structure Draft where
  command : Option String := none
  arguments : Option (List String) := none
  files : Option (Table FileBinding) := none
  outputs : Option (List String) := none

/-- How the inputs of a tool are read. -/
def reader : RecordReader Field Draft ToolInputs where
  name := "ToolInputs"
  fields := [(.command, "command"), (.arguments, "arguments"), (.files, "files"),
    (.outputs, "outputs")]
  ofKey
    | "command" => some .command
    | "arguments" => some .arguments
    | "files" => some .files
    | "outputs" => some .outputs
    | _ => none
  start := {}
  has
    | .command, draft => draft.command.isSome
    | .arguments, draft => draft.arguments.isSome
    | .files, draft => draft.files.isSome
    | .outputs, draft => draft.outputs.isSome
  take
    | .command, datum, draft => do return { draft with command := some (← datum.decodeText) }
    | .arguments, datum, draft => do
      return { draft with arguments := some (← datum.decodeList Datum.decodeText) }
    | .files, datum, draft => do
      return { draft with files := some (← datum.decodeTable FileBinding.decode) }
    | .outputs, datum, draft => do
      return { draft with outputs := some (← datum.decodeList Datum.decodeText) }
  finish absent draft := do
    return { command := ← required (absent .command) draft.command,
             arguments := ← required (absent .arguments) draft.arguments,
             files := ← required (absent .files) draft.files,
             outputs := ← required (absent .outputs) draft.outputs }

/-- The inputs of a tool as a value. -/
def encode (inputs : ToolInputs) : Value :=
  .map [("command", .text inputs.command), ("arguments", .texts inputs.arguments),
    ("files", .map (inputs.files.map fun (key, binding) => (key, binding.encode))),
    ("outputs", .texts inputs.outputs)]

end ToolInputs

/-- A step that runs a tool. -/
structure ToolStep where
  workflow : String
  inputs : ToolInputs
  /-- The copies into slots that are made after the step. -/
  postprocess : List String
  deriving DecidableEq, Repr

/-- What a pipeline is run with. -/
structure PipelineInputs where
  pipeline : FileRef
  /-- The name of the pipe that is run. -/
  runPipeline : String
  /-- What is taken out of the container. -/
  fromContainer : List String
  /-- What is put into the container. -/
  toContainer : List String
  /-- The slots that the pipeline sees, each with its reference. -/
  context : Table String
  deriving DecidableEq, Repr

namespace PipelineInputs

/-- The inputs of a pipeline that were read so far. -/
structure Draft where
  pipeline : Option FileRef := none
  runPipeline : Option String := none
  fromContainer : Option (List String) := none
  toContainer : Option (List String) := none
  /-- The entries with other keys, in order. -/
  others : List (Datum × Datum) := []

/-- Take the entries of a map into a draft. -/
def takeEntries : List (Datum × Datum) → Draft → Decoded Draft
  | [], draft => .ok draft
  | (key, value) :: rest, draft => do
    match key.text? with
    | some "pipeline" =>
      if draft.pipeline.isSome then throw (.duplicateField "pipeline")
      else takeEntries rest { draft with pipeline := some (← FileRef.reader.read value) }
    | some "run_pipeline" =>
      if draft.runPipeline.isSome then throw (.duplicateField "run_pipeline")
      else takeEntries rest { draft with runPipeline := some (← value.decodeText) }
    | some "from_cuds" =>
      if draft.fromContainer.isSome then throw (.duplicateField "from_cuds")
      else
        let names ← value.decodeList Datum.decodeText
        takeEntries rest { draft with fromContainer := some names }
    | some "to_cuds" =>
      if draft.toContainer.isSome then throw (.duplicateField "to_cuds")
      else
        let names ← value.decodeList Datum.decodeText
        takeEntries rest { draft with toContainer := some names }
    | _ => takeEntries rest { draft with others := draft.others ++ [(key, value)] }

/-- The inputs of a pipeline that a datum stands for; it has to be a map. All entries that are no
fields belong to the context. -/
def decode (datum : Datum) : Decoded PipelineInputs := do
  match datum with
  | .map entries =>
    let draft ← takeEntries entries {}
    let pipeline ← required (.missingField "pipeline") draft.pipeline
    let runPipeline ← required (.missingField "run_pipeline") draft.runPipeline
    let context ← (Datum.map draft.others).decodeTable Datum.decodeText
    return { pipeline, runPipeline, context,
             fromContainer := draft.fromContainer.getD [],
             toContainer := draft.toContainer.getD [] }
  | datum => throw (.wrongType datum.found .map)

/-- The entry for a list of names, unless it is empty. -/
def encodeNames (key : String) (names : List String) : List (String × Value) :=
  if names.isEmpty then [] else [(key, .texts names)]

/-- The inputs of a pipeline as a value. -/
def encode (inputs : PipelineInputs) : Value :=
  .map ([("pipeline", inputs.pipeline.encode), ("run_pipeline", .text inputs.runPipeline)]
    ++ encodeNames "from_cuds" inputs.fromContainer
    ++ encodeNames "to_cuds" inputs.toContainer
    ++ inputs.context.map fun (slot, reference) => (slot, .text reference))

end PipelineInputs

/-- A step that runs a pipeline. -/
structure PipelineStep where
  workflow : String
  inputs : PipelineInputs
  /-- The copies into slots that are made after the step. -/
  postprocess : List String
  deriving DecidableEq, Repr

/-- The fields of a step of either kind. -/
inductive StepField where
  | workflow
  | inputs
  | postprocess
  deriving DecidableEq, Repr

/-- A step that was read so far, with inputs of type `ι`. -/
structure StepDraft (ι : Type) where
  workflow : Option String := none
  inputs : Option ι := none
  postprocess : Option (List String) := none

/-- How a step is read whose inputs are decoded by `inputs`. -/
def stepReader {ι α : Type} (name : String) (inputs : Datum → Decoded ι)
    (make : String → ι → List String → α) : RecordReader StepField (StepDraft ι) α where
  name
  fields := [(.workflow, "workflow"), (.inputs, "inputs"), (.postprocess, "postprocess")]
  ofKey
    | "workflow" => some .workflow
    | "inputs" => some .inputs
    | "postprocess" => some .postprocess
    | _ => none
  start := {}
  has
    | .workflow, draft => draft.workflow.isSome
    | .inputs, draft => draft.inputs.isSome
    | .postprocess, draft => draft.postprocess.isSome
  take
    | .workflow, datum, draft => do return { draft with workflow := some (← datum.decodeText) }
    | .inputs, datum, draft => do return { draft with inputs := some (← inputs datum) }
    | .postprocess, datum, draft => do
      return { draft with postprocess := some (← datum.decodeList Datum.decodeText) }
  finish absent draft := do
    let workflow ← required (absent .workflow) draft.workflow
    let inputs ← required (absent .inputs) draft.inputs
    return make workflow inputs (draft.postprocess.getD [])

namespace ToolStep

/-- How a tool step is read. -/
def reader : RecordReader StepField (StepDraft ToolInputs) ToolStep :=
  stepReader "ToolStep" ToolInputs.reader.read ToolStep.mk

/-- A tool step as a value. -/
def encode (step : ToolStep) : Value :=
  .map [("workflow", .text step.workflow), ("inputs", step.inputs.encode),
    ("postprocess", .texts step.postprocess)]

end ToolStep

namespace PipelineStep

/-- How a pipeline step is read. -/
def reader : RecordReader StepField (StepDraft PipelineInputs) PipelineStep :=
  stepReader "PipelineStep" PipelineInputs.decode PipelineStep.mk

/-- A pipeline step as a value. -/
def encode (step : PipelineStep) : Value :=
  .map ([("workflow", .text step.workflow), ("inputs", step.inputs.encode)]
    ++ PipelineInputs.encodeNames "postprocess" step.postprocess)

end PipelineStep

/-- A step of a chain. -/
inductive ChainStep where
  | tool (step : ToolStep)
  | pipeline (step : PipelineStep)
  deriving DecidableEq, Repr

namespace ChainStep

/-- The engine workflow that runs the step. -/
def workflow : ChainStep → String
  | .tool step => step.workflow
  | .pipeline step => step.workflow

/-- The copies into slots that are made after the step. -/
def postprocess : ChainStep → List String
  | .tool step => step.postprocess
  | .pipeline step => step.postprocess

/-- A step as a value. -/
def encode : ChainStep → Value
  | .tool step => step.encode
  | .pipeline step => step.encode

/-- The step that a datum stands for. -/
def decode (datum : Datum) : Decoded ChainStep :=
  match datum.resolve with
  | none => .error .unreadable
  | some datum =>
    match ToolStep.reader.read datum with
    | .ok step => .ok (.tool step)
    | .error _ =>
      match PipelineStep.reader.read datum with
      | .ok step => .ok (.pipeline step)
      | .error _ => .error (.noVariant "ChainStep")

end ChainStep

/-- The steps that the execution engine runs, in order. -/
structure Chain where
  steps : List ChainStep := []
  deriving DecidableEq, Repr

namespace Chain

/-- How a chain is read. -/
def reader : RecordReader Unit (Option (List ChainStep)) Chain where
  name := "Chain"
  fields := [((), "steps")]
  ofKey key := if key = "steps" then some () else none
  start := none
  has _ draft := draft.isSome
  take _ datum _ := do return some (← datum.decodeList ChainStep.decode)
  finish absent draft := do return ⟨← required (absent ()) draft⟩
  look _ := .items .all

/-- The chain that a datum stands for. -/
def decode (datum : Datum) : Decoded Chain := reader.read datum

/-- How a chain is decoded. -/
def decoder : Decoder Chain := reader.decoder

/-- A chain as a value. -/
def encode (chain : Chain) : Value := .map [("steps", .list (chain.steps.map ChainStep.encode))]

end Chain

end WorkflowChain
