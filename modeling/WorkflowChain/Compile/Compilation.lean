import WorkflowChain.Compile.Assembly
import WorkflowChain.Compile.Settings
import WorkflowChain.Execution.Chain
import WorkflowChain.Execution.Slot
import WorkflowChain.Text.ShellWords

/-! # Compiling workflows

A workflow becomes one fragment for every step and a final one, and a chain in which every step is a
pipeline step, which runs the fragment, followed by a tool step. The last pipeline step runs the
final fragment on the outputs of the last tool. A workflow without steps has an empty chain.
-/

namespace WorkflowChain

/-- A fragment with the name of its file. -/
structure NamedFragment where
  fileName : String
  fragment : Fragment
  deriving Repr

/-- The words of a command. A backslash, which continues a line, is dropped. -/
def commandWords (command : String) : List String :=
  Text.ShellWords.split (Text.withoutChar '\\' command)

/-- What a workflow is compiled to. -/
structure Compilation where
  chainFileName : String
  fragments : List NamedFragment
  chain : Chain
  warnings : List Warning
  deriving Repr

namespace Compilation

/-- The fragment in a file. -/
def fragment? (compilation : Compilation) (fileName : String) : Option Fragment :=
  (compilation.fragments.find? (·.fileName = fileName)).map NamedFragment.fragment

/-- The step that runs a fragment. For a step of the workflow the nodes are its inputs, whose
results are copied into slots; for the last step they are the outputs of the last tool. -/
def pipelineStep (settings : Settings) (fileName : String) (nodes : List Node) (isLast : Bool) :
    PipelineStep :=
  let sinks := if isLast then [] else nodes.map (Node.slot · .input)
  let sources := (nodes.filter Node.isContextNode).map (Node.slot · .output)
  { workflow := settings.pipelineWorkflow
    inputs :=
      { pipeline := FileRef.sibling fileName
        runPipeline := "pipe"
        fromContainer := sinks
        toContainer := sources
        context := Table.ofEntries (sources.map fun slot => (slot, Slot.reference slot)) }
    postprocess := sinks.map fun slot => (Slot.Write.result slot).render }

/-- The bindings of the files of a tool: first its inputs, then its static files. -/
def toolBindings (tool : String) (descriptor : Descriptor) (inputs : List Node) :
    Except Failure (List FileBinding) := do
  let bound ← inputs.mapM fun input =>
    match descriptor.inputFileName? input.identifier with
    | some name => .ok (FileBinding.node name (Slot.reference (input.slot .input)))
    | none => .error (Failure.notFound input.identifier ("input file of tool '" ++ tool ++ "'"))
  return bound
    ++ descriptor.files.map fun file => FileBinding.template file.targetFile file.sourceUri

/-- The key of a file of a tool, by its place. -/
def fileKey (place : Nat) : String := "in_file_" ++ toString place

/-- The files of a tool by key: each binding is put under the key of the next place. -/
def fileTable (bindings : List FileBinding) : Table FileBinding :=
  bindings.foldl (fun files binding => files.put (fileKey files.length) binding) []

/-- The program of a tool and its arguments. -/
def program (tool : String) (descriptor : Descriptor) : Except Failure (String × List String) :=
  match descriptor.command with
  | none => .error (.notFound tool "command")
  | some command =>
    match commandWords command with
    | [] => .error (.malformed tool "empty command")
    | name :: arguments => .ok (name, arguments)

/-- The engine workflow that runs a tool. -/
def executor (tool : String) (descriptor : Descriptor) : Except Failure String :=
  match descriptor.executor with
  | some executor => .ok executor
  | none => .error (.notFound tool "executor")

/-- The step that runs the tool of a node. Its output files are copied, in the order in which the
tool declares them, into the slots of the artifacts that the node produces. -/
def toolStep (graph : Graph) (node : Node) (descriptor : Descriptor) :
    Except Failure ToolStep := do
  let tool := node.identifier
  let bindings ← toolBindings tool descriptor (graph.inputsOf node)
  let (command, arguments) ← program tool descriptor
  let workflow ← executor tool descriptor
  let outputs ← descriptor.outputFileNames tool
  let writes := outputs.zipWith
    (fun file (output : Node) => Slot.Write.file file (output.slot .output))
    (graph.outputsOf node)
  return {
    workflow
    inputs :=
      { command, arguments, files := fileTable bindings, outputs }
    postprocess := writes.map Slot.Write.render }

/-- What one step of a workflow is compiled to. -/
structure Part where
  fragment : NamedFragment
  steps : List ChainStep
  warnings : List Warning

/-- Compile the step of a node. -/
def stepPart (store : Store) (settings : Settings) (graph : Graph) (place : Nat) (node : Node) :
    Except Failure Part := do
  let inputs := graph.inputsOf node
  let assembly ← Assembly.ofNodes store inputs false none
  let fileName := settings.fragmentName place
  let descriptor ← store.descriptor node.identifier
  let tool ← toolStep graph node descriptor
  return ⟨⟨fileName, assembly.fragment⟩,
    [.pipeline (pipelineStep settings fileName inputs false), .tool tool], assembly.warnings⟩

/-- Compile the steps of the given nodes, the first of which has the given place. -/
def stepParts (store : Store) (settings : Settings) (graph : Graph) :
    Nat → List Node → Except Failure (List Part)
  | _, [] => .ok []
  | place, node :: rest => do
    let part ← stepPart store settings graph place node
    return part :: (← stepParts store settings graph (place + 1) rest)

/-- Compile what follows the last step, if there is one. -/
def finalPart (store : Store) (settings : Settings) (graph : Graph) (last : Node) :
    Except Failure Part := do
  let outputs := graph.outputsOf last
  let assembly ← Assembly.ofNodes store outputs true settings.target
  let fileName := settings.finalFragmentName
  return ⟨⟨fileName, assembly.fragment⟩,
    [.pipeline (pipelineStep settings fileName outputs true)], assembly.warnings⟩

/-- Put the parts of a compilation together. -/
def ofParts (settings : Settings) (parts : List Part) : Compilation where
  chainFileName := settings.chainFileName
  fragments := parts.map Part.fragment
  chain := ⟨parts.flatMap Part.steps⟩
  warnings := parts.flatMap Part.warnings

/-- Compile a graph. -/
def ofGraph (store : Store) (settings : Settings) (graph : Graph) : Except Failure Compilation := do
  let parts ← stepParts store settings graph 0 graph.steps
  match graph.steps.getLast? with
  | none => return ofParts settings parts
  | some last =>
    let final ← finalPart store settings graph last
    return ofParts settings (parts ++ [final])

end Compilation

/-- Compile a workflow with the knowledge of a store. -/
def compile (store : Store) (settings : Settings) (description : Description) :
    Except Failure Compilation := do
  if let some target := settings.target then target.check
  match Graph.build description settings.maxDepth with
  | .error error => throw (.graph error)
  | .ok graph => Compilation.ofGraph store settings graph

end WorkflowChain
