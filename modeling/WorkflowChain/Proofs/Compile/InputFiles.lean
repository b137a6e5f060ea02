import WorkflowChain.Proofs.Compile.ChainLayout
import WorkflowChain.Proofs.Compile.FragmentStages

/-! # The input files of a tool

A tool gets the file of an input from a slot, and the pipeline step before it fills the slot from a
stage of its fragment. The two sides are compiled separately: the fragment asks the consumer that
the graph has recorded for the input and makes a stage of each of its templates, whereas the tool
step asks the tool of its own node and takes the file name from the last template. They agree
because the recorded consumer is that tool, and because the last template keeps the name of the
slot.
-/

namespace WorkflowChain

/-- A tool step and the fragment of the pipeline step before it agree on the files of a node. -/
structure AgreesOnFiles (pipeline : PipelineStep) (fragment : Fragment) (tool : ToolStep)
    (node : Node) (descriptor : Descriptor) : Prop where
  /-- There is a file for each input and each static file, under numbered keys. -/
  keys : tool.inputs.files.keys =
    (List.range (node.inputs.length + descriptor.files.length)).map fun place =>
      "in_file_" ++ toString place
  distinct : tool.inputs.files.keys.Nodup
  results : pipeline.inputs.fromContainer =
    node.inputs.map fun input => "datanode_" ++ toString input ++ "_input"
  /-- The file of an input is the one that the only stage of its name declares. -/
  inputs : ∀ (place : Nat) slot, pipeline.inputs.fromContainer[place]? = some slot →
    ∃ filename stage, tool.inputs.files[place]? =
        some ("in_file_" ++ toString place, .node filename (Slot.reference slot)) ∧
      fragment.stages.filter (·.name = slot) = [stage] ∧ stage.location? = some filename
  statics : (tool.inputs.files.drop node.inputs.length).map Prod.snd =
    descriptor.files.map fun file => .template file.targetFile file.sourceUri

/-- The name of an input file is the location of the last template that a tool has for the input. -/
theorem Descriptor.exists_last_template {descriptor : Descriptor} {artifact name : String}
    (named : descriptor.inputFileName? artifact = some name) :
    ∃ templates template, descriptor.templatesFor? .input artifact = some templates ∧
      templates.getLast? = some template ∧ template.location? = some name := by
  simpa [inputFileName?, Option.bind_eq_some_iff] using named

namespace Assembly

variable {store : Store} {node input : Node}

/-- The sink with the slot of an input declares the file that the consumer expects. -/
theorem exists_sink_of_inputFileName? {handled : List Stage} {descriptor : Descriptor}
    {name : String} (made : sinkStages store false input = .ok handled)
    (consumer : input.kind.input = node.identifier) (filled : node.identifier ≠ "")
    (described : store.descriptor node.identifier = .ok descriptor)
    (named : descriptor.inputFileName? input.identifier = some name) :
    ∃ sink ∈ handled, sink.name = input.slot .input ∧ sink.location? = some name := by
  have consumed : (false || input.kind.input.isEmpty) = false := by
    simpa [consumer] using filled
  rw [sinkStages, consumed, consumer] at made
  obtain ⟨templates, known, made⟩ := bind_ok.mp made
  cases made
  -- The templates of the sink side are those from which the file name was taken.
  obtain ⟨found, asked, documented⟩ := Store.toolTemplates_ok.mp known
  cases described.symm.trans asked
  obtain ⟨_, template, declared, last, located⟩ := Descriptor.exists_last_template named
  cases documented.symm.trans declared
  exact ⟨_, ofTemplate_mem_templateStages last, rfl, located⟩

end Assembly

namespace ToolStep.Runs

variable {graph : Graph} {node : Node} {descriptor : Descriptor} {tool : ToolStep}
  (runs : tool.Runs graph node descriptor)

include runs

theorem length_files :
    tool.inputs.files.length = (graph.inputsOf node).length + descriptor.files.length := by
  obtain ⟨_, bound, files⟩ := runs.files
  obtain ⟨own, rfl, each⟩ := Compilation.toolBindings_ok bound
  rw [files, List.length_mapIdx, List.length_append, List.length_map, each.length_eq]

/-- The files of a tool have the keys of their places. -/
theorem keys_files :
    tool.inputs.files.keys = (List.range tool.inputs.files.length).map Compilation.fileKey := by
  obtain ⟨bindings, _, files⟩ := runs.files
  rw [files, List.length_mapIdx]
  apply List.ext_getElem
  · simp [Table.keys]
  · intro place _ _
    simp [Table.keys]

theorem nodup_keys_files : tool.inputs.files.keys.Nodup := by
  rw [runs.keys_files]
  exact List.nodup_range.map Compilation.fileKey_injective

/-- The file of an input stands at the place of the input. -/
theorem file_of_input {place : Nat} {input : Node}
    (found : (graph.inputsOf node)[place]? = some input) :
    ∃ name, descriptor.inputFileName? input.identifier = some name ∧
      tool.inputs.files[place]? = some (Compilation.fileKey place,
        .node name (Slot.reference (input.slot .input))) := by
  obtain ⟨_, bound, files⟩ := runs.files
  obtain ⟨own, rfl, each⟩ := Compilation.toolBindings_ok bound
  obtain ⟨inside, rfl⟩ := List.getElem?_eq_some_iff.mp found
  have listed : place < own.length := each.length_eq ▸ inside
  obtain ⟨name, named, same⟩ := each.get inside listed
  refine ⟨name, named, ?_⟩
  rw [files, List.getElem?_mapIdx, List.getElem?_append_left listed,
    List.getElem?_eq_getElem listed, Option.map_some]
  exact congrArg (fun binding => some (Compilation.fileKey place, binding)) same

/-- After the files of the inputs come the static files. -/
theorem drop_files :
    (tool.inputs.files.drop (graph.inputsOf node).length).map Prod.snd =
      descriptor.files.map fun file => .template file.targetFile file.sourceUri := by
  obtain ⟨_, bound, files⟩ := runs.files
  obtain ⟨own, rfl, each⟩ := Compilation.toolBindings_ok bound
  have values : tool.inputs.files.map Prod.snd = own ++ descriptor.files.map fun file =>
      FileBinding.template file.targetFile file.sourceUri := by
    rw [files]
    apply List.ext_getElem
    · simp
    · intro place _ _
      simp
  rw [List.map_drop, values, each.length_eq, List.drop_left]

end ToolStep.Runs

namespace Compilation

variable {store : Store} {settings : Settings} {root : Description} {compilation : Compilation}

/-- The file that a tool gets for an input is declared by the sink with the slot of the input. -/
theorem HasStep.exists_sink {graph : Graph} {limit place index : Nat} {node input : Node}
    {assembly : Assembly} {descriptor : Descriptor} {tool : ToolStep} {own : List Stage}
    {sources sinks : List (List Stage)}
    (step : compilation.HasStep store settings graph place node assembly descriptor tool)
    (built : Graph.build root limit = .ok graph) (listed : node ∈ graph.nodes)
    (parts : assembly.Parts store (graph.inputsOf node) false none own sources sinks)
    (chosen : (graph.inputsOf node)[index]? = some input) :
    ∃ name, ∃ sink ∈ sinks.flatten, sink.name = input.slot .input ∧ sink.location? = some name ∧
      tool.inputs.files[index]? =
        some (fileKey index, .node name (Slot.reference (input.slot .input))) := by
  obtain ⟨name, named, bound⟩ := step.runs.file_of_input chosen
  have used := List.mem_of_getElem? chosen
  obtain ⟨consumer, filled, _⟩ := Graph.consumer_of_mem_inputsOf built listed used
  obtain ⟨handled, inside, made⟩ := exists_result_of_mapM_ok parts.handled used
  obtain ⟨sink, member, same, located⟩ := Assembly.exists_sink_of_inputFileName? made consumer
    filled step.described named
  exact ⟨name, sink, List.mem_flatten_of_mem inside member, same, located, bound⟩

/-- **A fragment and the tool after it agree on files.** -/
theorem agreesOnFiles_of_compile (compiled : compile store settings root = .ok compilation) :
    ∃ graph, Graph.build root settings.maxDepth = .ok graph ∧
      ∀ place node, graph.steps[place]? = some node →
        ∃ pipeline fragment tool descriptor, compilation.RunsFragment place pipeline fragment ∧
          compilation.chain.steps[2 * place + 1]? = some (.tool tool) ∧
          store.descriptor node.identifier = .ok descriptor ∧
          AgreesOnFiles pipeline fragment tool node descriptor := by
  obtain ⟨graph, built, follows⟩ := compile_ok compiled
  have laid := Graph.nodes_of_build built
  refine ⟨graph, built, ?_⟩
  intro place node known
  obtain ⟨assembly, descriptor, tool, step⟩ := follows.step place node known
  refine ⟨_, _, tool, descriptor, step.runsFragment, step.tool, step.described, ?_⟩
  have listed : node ∈ graph.nodes := List.mem_of_mem_filter (List.mem_of_getElem? known)
  have numbers : (graph.inputsOf node).map Node.id = node.inputs := by
    obtain ⟨position, found, rfl⟩ := (Graph.getElem?_steps laid).mp known
    exact Graph.map_id_inputsOf laid (root.productions_subset (List.mem_of_getElem? found))
  have counted : (graph.inputsOf node).length = node.inputs.length := by
    rw [← numbers, List.length_map]
  constructor
  case keys =>
    rw [step.runs.keys_files, step.runs.length_files, counted]
    rfl
  case distinct => exact step.runs.nodup_keys_files
  case results =>
    rw [← numbers, List.map_map]
    exact List.map_congr_left fun input _ => input.slot_input
  case inputs =>
    intro place slot found
    rw [pipelineStep] at found
    simp only [Bool.false_eq_true, ↓reduceIte, List.getElem?_map] at found
    obtain ⟨input, chosen, rfl⟩ := Option.map_eq_some_iff.mp found
    obtain ⟨_, _, _, parts⟩ := Assembly.parts_of_ofNodes step.assembled
    obtain ⟨name, sink, member, same, located, bound⟩ :=
      step.exists_sink built listed parts chosen
    refine ⟨name, sink, bound, ?_, located⟩
    rw [← same]
    exact Stage.filter_name_eq parts.distinct (parts.sinks_subset member)
  case statics => exact counted ▸ step.runs.drop_files

/-- The second tool of the workflow with two tools gets two files from slots. -/
theorem agreesOnFiles_twoTools :
    ∃ compilation node pipeline fragment tool descriptor,
      compile .twoTools {} .twoTools = .ok compilation ∧ node.inputs.length = 2 ∧
      compilation.RunsFragment 1 pipeline fragment ∧
      compilation.chain.steps[3]? = some (.tool tool) ∧
      AgreesOnFiles pipeline fragment tool node descriptor := by
  obtain ⟨compilation, compiled⟩ := compile_twoTools
  obtain ⟨graph, built, each⟩ := agreesOnFiles_of_compile compiled
  cases built
  obtain ⟨pipeline, fragment, tool, descriptor, runs, invoked, _, agrees⟩ := each 1 _ rfl
  exact ⟨compilation, _, pipeline, fragment, tool, descriptor, compiled, rfl, runs, invoked, agrees⟩

end Compilation

end WorkflowChain
