import WorkflowChain.Proofs.Compile.Assembly
import WorkflowChain.Proofs.Compile.ChainLayout

/-! # The flow of slots through a chain

The steps of a chain hand artifacts on through slots of the execution context. No step reads a
slot that nothing has filled: what a step reads was written by a step before it, unless it is the
artifact of a dataset, which the pipeline loads itself.

For the slots of produced artifacts the reason lies in three passes. The producer of an artifact
is a child of it and comes before it in post-order; the fragment that uses the artifact could only
be assembled because its producer documents it as an output; and a tool that documents outputs at
all copies one of them into the slot of the artifact that it produces.
-/

namespace WorkflowChain

/-! ## Slots that are read and written -/

namespace ChainStep

/-- A step reads a slot: a pipeline step has the slot in its context, and a tool step binds a file
to a reference to the slot. -/
def Reads : ChainStep → String → Prop
  | .pipeline step, slot => slot ∈ step.inputs.context.keys
  | .tool step, slot =>
    ∃ key filename, (key, FileBinding.node filename (Slot.reference slot)) ∈ step.inputs.files

/-- A step writes a slot: a pipeline step copies a result into it, and a tool step one of its output
files. -/
def Writes : ChainStep → String → Prop
  | .pipeline step, slot => (Slot.Write.result slot).render ∈ step.postprocess
  | .tool step, slot =>
    ∃ file ∈ step.inputs.outputs, (Slot.Write.file file slot).render ∈ step.postprocess

end ChainStep

/-- Every slot that is read in a chain was filled before. -/
structure Chain.Flows (chain : Chain) (graph : Graph) : Prop where
  /-- What a step reads was written by an earlier one, or is the artifact of a dataset. -/
  read : ∀ (place : Nat) step slot, chain.steps[place]? = some step → step.Reads slot →
    (∃ node ∈ graph.nodes, node.isDataset = true ∧ slot = node.slot .output) ∨
      ∃ earlier < place, ∃ writer, chain.steps[earlier]? = some writer ∧ writer.Writes slot
  /-- A produced artifact that a pipeline gets was written by an earlier tool step. -/
  produced : ∀ (place : Nat) pipeline, chain.steps[place]? = some (.pipeline pipeline) →
    ∀ node ∈ graph.nodes, node.isDataset = false →
      node.slot .output ∈ pipeline.inputs.toContainer →
        ∃ earlier < place, ∃ tool, chain.steps[earlier]? = some (.tool tool) ∧
          (ChainStep.tool tool).Writes (node.slot .output)
  /-- A file that a tool step takes from a slot is the result for an input, which the pipeline step
  directly before it wrote. -/
  results : ∀ (place : Nat) tool, chain.steps[place]? = some (.tool tool) →
    ∀ key filename reference, (key, FileBinding.node filename reference) ∈ tool.inputs.files →
      ∃ node ∈ graph.nodes, reference = Slot.reference (node.slot .input) ∧
        ∃ before pipeline, place = before + 1 ∧
          chain.steps[before]? = some (.pipeline pipeline) ∧
          (ChainStep.pipeline pipeline).Writes (node.slot .input)

theorem Slot.reference_inj {slot other : String} (same : reference slot = reference other) :
    slot = other :=
  (String.append_right_inj _).mp ((String.append_left_inj _).mp same)

/-- The slots of one side tell the nodes apart. -/
theorem Node.id_eq_of_slot_eq {node other : Node} {direction : Direction}
    (same : node.slot direction = other.slot direction) : node.id = other.id := by
  apply toString_nat_injective
  apply (String.append_right_inj "datanode_").mp
  exact (String.append_left_inj "_").mp ((String.append_left_inj direction.name).mp same)

namespace Compilation

theorem mem_context_pipelineStep {settings : Settings} {fileName slot : String} {nodes : List Node}
    {isLast : Bool} :
    slot ∈ (pipelineStep settings fileName nodes isLast).inputs.context.keys ↔
      slot ∈ (pipelineStep settings fileName nodes isLast).inputs.toContainer := by
  simp only [pipelineStep, Table.mem_keys_ofEntries, List.map_map]
  rfl

theorem mem_toContainer {settings : Settings} {fileName slot : String} {nodes : List Node}
    {isLast : Bool} :
    slot ∈ (pipelineStep settings fileName nodes isLast).inputs.toContainer ↔
      ∃ node ∈ nodes, node.isContextNode = true ∧ slot = node.slot .output := by
  simp only [pipelineStep, List.mem_map, List.mem_filter, and_assoc, eq_comm]

/-- The pipeline step of a workflow step writes the slots of all its nodes. -/
theorem pipelineStep_writes {settings : Settings} {fileName : String} {nodes : List Node}
    {node : Node} (member : node ∈ nodes) :
    (ChainStep.pipeline (pipelineStep settings fileName nodes false)).Writes
      (node.slot .input) :=
  List.mem_map_of_mem (List.mem_map_of_mem member)

end Compilation

/-! ## Tool steps -/

namespace ToolStep.Runs

variable {graph : Graph} {node : Node} {descriptor : Descriptor} {tool : ToolStep}
  (runs : tool.Runs graph node descriptor)

include runs

/-- A tool step only takes files from the slots of the results for its inputs. -/
theorem exists_input {key filename reference : String}
    (member : (key, FileBinding.node filename reference) ∈ tool.inputs.files) :
    ∃ input ∈ graph.inputsOf node, reference = Slot.reference (input.slot .input) := by
  obtain ⟨bindings, bound, files⟩ := runs.files
  obtain ⟨own, rfl, each⟩ := Compilation.toolBindings_ok bound
  rw [files, List.mem_mapIdx] at member
  obtain ⟨place, inside, same⟩ := member
  have listed := List.getElem_mem inside
  rw [(Prod.mk.inj same).2, List.mem_append] at listed
  rcases listed with listed | static
  · obtain ⟨index, found⟩ := List.mem_iff_getElem?.mp listed
    obtain ⟨bound, found⟩ := List.getElem?_eq_some_iff.mp found
    obtain ⟨name, _, made⟩ := each.get (each.length_eq ▸ bound) bound
    rw [List.get_eq_getElem, List.get_eq_getElem, found] at made
    exact ⟨_, List.getElem_mem _, (FileBinding.node.inj made).2⟩
  · obtain ⟨file, _, same⟩ := List.mem_map.mp static
    cases same

/-- A tool that documents any outputs has the artifact that it produces written. -/
theorem writes {output : Node} (produces : graph.outputsOf node = [output])
    (documents : descriptor.output ≠ []) :
    (ChainStep.tool tool).Writes (output.slot .output) := by
  have named := mapM_ok.mp runs.outputs
  cases outputs : tool.inputs.outputs with
  | nil =>
    rw [outputs, List.forall₂_nil_right_iff] at named
    exact absurd named documents
  | cons file rest =>
    refine ⟨file, by rw [outputs]; exact List.mem_cons_self, ?_⟩
    rw [runs.postprocess, outputs, produces]
    exact List.mem_cons_self

end ToolStep.Runs

/-! ## Producers come first -/

namespace Compilation

variable {store : Store} {settings : Settings} {graph : Graph} {root : Description}
  {compilation : Compilation}

/-- The context of a pipeline step has the slots of the artifacts that the pipeline gets. -/
theorem mem_context {place : Nat} {pipeline : PipelineStep} {slot : String}
    (follows : compilation.Follows store settings graph)
    (found : compilation.chain.steps[place]? = some (.pipeline pipeline)) :
    slot ∈ pipeline.inputs.context.keys ↔ slot ∈ pipeline.inputs.toContainer := by
  rcases follows.cases_step found with
    ⟨_, _, _, _, _, _, _, ⟨_, same⟩ | ⟨_, same⟩⟩ | ⟨_, _, _, _, _, same⟩
  · cases same
    exact mem_context_pipelineStep
  · cases same
  · cases same
    exact mem_context_pipelineStep

/-- The files that a tool step takes from slots are the results of the pipeline step before it. -/
theorem exists_writer_of_file {place : Nat} {tool : ToolStep} {key filename reference : String}
    (follows : compilation.Follows store settings graph)
    (found : compilation.chain.steps[place]? = some (.tool tool))
    (member : (key, FileBinding.node filename reference) ∈ tool.inputs.files) :
    ∃ node ∈ graph.nodes, reference = Slot.reference (node.slot .input) ∧
      ∃ before pipeline, place = before + 1 ∧
        compilation.chain.steps[before]? = some (.pipeline pipeline) ∧
        (ChainStep.pipeline pipeline).Writes (node.slot .input) := by
  rcases follows.cases_step found with
    ⟨index, node, assembly, descriptor, tool, known, step, ⟨_, same⟩ | ⟨rfl, same⟩⟩ |
    ⟨_, _, _, _, _, same⟩
  · cases same
  · cases same
    obtain ⟨input, used, rfl⟩ := step.runs.exists_input member
    exact ⟨input, Graph.mem_nodes_of_mem_inputsOf used, rfl, 2 * index, _, rfl, step.pipeline,
      pipelineStep_writes used⟩
  · cases same

section Producer

variable (built : Graph.build root settings.maxDepth = .ok graph)
  (follows : compilation.Follows store settings graph)

include built follows

/-- The slot of an artifact that is produced, and is among the nodes of a fragment, is written by
the tool step of a production that comes before the artifact. -/
theorem exists_writer {position : Position} (member : position ∈ root.positions)
    {nodes : List Node} {isFinal : Bool} {target : Option Target} {assembly : Assembly}
    (assembled : Assembly.ofNodes store nodes isFinal target = .ok assembly)
    (used : root.nodeAt 0 position ∈ nodes)
    (produced : (root.nodeAt 0 position).isDataset = false)
    (byTool : (root.nodeAt 0 position).kind.output ≠ "") :
    ∃ place below tool, root.productions[place]? = some below ∧
      root.number below < root.number position ∧
      compilation.chain.steps[2 * place + 1]? = some (.tool tool) ∧
      (ChainStep.tool tool).Writes ((root.nodeAt 0 position).slot .output) := by
  have laid := Graph.nodes_of_build built
  have notDataset : (root.descriptionAt position).producer ≠ datasetKind :=
    of_decide_eq_false produced
  obtain ⟨index, child, chosen, produces, named⟩ :=
    Description.exists_production notDataset byTool
  have found : root.at? (position ++ [index]) = some child := by
    rw [Description.at?_child (Description.at?_descriptionAt member), chosen]
  have production := Description.mem_productions found produces
  obtain ⟨place, listed⟩ := List.mem_iff_getElem?.mp production
  have known := (Graph.getElem?_steps laid).mpr ⟨_, listed, rfl⟩
  obtain ⟨_, descriptor, tool, step⟩ := follows.step place _ known
  refine ⟨place, _, tool, listed, Description.number_child_lt found, step.tool, ?_⟩
  -- The producer that the fragment asks for and the tool of the child are the same entry.
  obtain ⟨documenting, templates, described, documented⟩ :=
    Assembly.exists_templates_of_ofNodes assembled used produced byTool
  have same : (root.nodeAt 0 (position ++ [index])).identifier =
      (root.nodeAt 0 position).kind.output := by
    rw [Description.nodeAt, Description.descriptionAt_eq found, named]
    rfl
  have own := step.described
  rw [same, described] at own
  cases own
  apply step.runs.writes
  · rw [Graph.outputsOf_production laid production, List.dropLast_concat]
  · exact Descriptor.bindings_ne_nil documented

/-- A node of a fragment that its pipeline has to get is the artifact of a dataset, or its slot was
written before, if all productions that come before it have their steps before. -/
theorem isDataset_or_exists_earlier {position : Position} (member : position ∈ root.positions)
    {nodes : List Node} {isFinal : Bool} {target : Option Target} {assembly : Assembly}
    (assembled : Assembly.ofNodes store nodes isFinal target = .ok assembly)
    (used : root.nodeAt 0 position ∈ nodes)
    (context : (root.nodeAt 0 position).isContextNode = true) {place : Nat}
    (ordered : ∀ earlier below, root.productions[earlier]? = some below →
      root.number below < root.number position → 2 * earlier + 1 < place) :
    (root.nodeAt 0 position).isDataset = true ∨
      ∃ earlier < place, ∃ tool, compilation.chain.steps[earlier]? = some (.tool tool) ∧
        (ChainStep.tool tool).Writes ((root.nodeAt 0 position).slot .output) := by
  rcases Bool.eq_false_or_eq_true (root.nodeAt 0 position).isDataset with dataset | produced
  · exact .inl dataset
  · have byTool : (root.nodeAt 0 position).kind.output ≠ "" := by
      intro none
      rw [Node.isContextNode, none] at context
      cases context
    obtain ⟨earlier, below, tool, listed, before, ran, writes⟩ :=
      exists_writer built follows member assembled used produced byTool
    exact .inr ⟨_, ordered earlier below listed before, tool, ran, writes⟩

/-- What a pipeline step gets is the artifact of a dataset, or was written by an earlier tool
step. -/
theorem exists_writer_of_toContainer {place : Nat} {pipeline : PipelineStep} {slot : String}
    (found : compilation.chain.steps[place]? = some (.pipeline pipeline))
    (member : slot ∈ pipeline.inputs.toContainer) :
    ∃ node ∈ graph.nodes, slot = node.slot .output ∧ (node.isDataset = true ∨
      ∃ earlier < place, ∃ tool, compilation.chain.steps[earlier]? = some (.tool tool) ∧
        (ChainStep.tool tool).Writes (node.slot .output)) := by
  have laid := Graph.nodes_of_build built
  rcases follows.cases_step found with
    ⟨index, node, assembly, _, _, known, step, ⟨rfl, same⟩ | ⟨_, same⟩⟩ |
    ⟨last, assembly, known, final, rfl, same⟩
  · -- The artifacts are inputs of the step, and what comes before them comes before the step.
    cases same
    obtain ⟨input, used, context, rfl⟩ := mem_toContainer.mp member
    refine ⟨input, Graph.mem_nodes_of_mem_inputsOf used, rfl, ?_⟩
    obtain ⟨position, listed, rfl⟩ := (Graph.getElem?_steps laid).mp known
    have own := root.productions_subset (List.mem_of_getElem? listed)
    have inputs := Graph.inputsOf_nodeAt laid own
    obtain ⟨consumed, below, rfl⟩ := List.mem_map.mp (inputs ▸ used)
    have inside := Description.consumedAt_subset own below
    have order := Description.number_lt_of_mem_consumedAt own below
    apply isDataset_or_exists_earlier built follows inside step.assembled used context
    intro earlier producer first before
    have := Description.place_lt_of_number_lt first listed (Nat.lt_trans before order)
    omega
  · cases same
  · -- The artifacts are outputs of the last step, and all tool steps come before.
    cases same
    obtain ⟨output, used, context, rfl⟩ := mem_toContainer.mp member
    refine ⟨output, Graph.mem_nodes_of_mem_outputsOf used, rfl, ?_⟩
    have counted := Graph.length_steps laid
    rw [Graph.steps_eq laid, List.getLast?_map] at known
    obtain ⟨position, listed, rfl⟩ := Option.map_eq_some_iff.mp known
    have production := List.mem_of_getLast? listed
    have inside := Description.dropLast_mem_positions (root.productions_subset production)
    obtain rfl : output = root.nodeAt 0 position.dropLast := by
      rw [Graph.outputsOf_production laid production] at used
      exact List.mem_singleton.mp used
    apply isDataset_or_exists_earlier built follows inside final.assembled used context
    intro earlier producer first _
    have bound := (List.getElem?_eq_some_iff.mp first).1
    omega

end Producer

/-- **Slots are filled before they are read.** -/
theorem flows_of_compile (compiled : compile store settings root = .ok compilation) :
    ∃ graph, Graph.build root settings.maxDepth = .ok graph ∧ compilation.chain.Flows graph := by
  obtain ⟨graph, built, follows⟩ := compile_ok compiled
  have laid := Graph.nodes_of_build built
  refine ⟨graph, built, ?_⟩
  constructor
  case read =>
    intro place step slot found reads
    cases step with
    | pipeline pipeline =>
      have listed := (mem_context follows found).mp reads
      obtain ⟨node, known, rfl, dataset | ⟨earlier, before, tool, ran, writes⟩⟩ :=
        exists_writer_of_toContainer built follows found listed
      · exact .inl ⟨node, known, dataset, rfl⟩
      · exact .inr ⟨earlier, before, _, ran, writes⟩
    | tool tool =>
      obtain ⟨key, filename, member⟩ := reads
      obtain ⟨node, _, same, before, pipeline, rfl, ran, writes⟩ :=
        exists_writer_of_file follows found member
      rw [← Slot.reference_inj same] at writes
      exact .inr ⟨before, Nat.lt_succ_self before, _, ran, writes⟩
  case produced =>
    intro place pipeline found node member produced listed
    obtain ⟨other, known, same, writer⟩ :=
      exists_writer_of_toContainer built follows found listed
    obtain rfl := Graph.eq_of_id_eq laid member known (Node.id_eq_of_slot_eq same)
    rcases writer with dataset | earlier
    · rw [produced] at dataset
      cases dataset
    · exact earlier
  case results =>
    intro place tool found key filename reference member
    exact exists_writer_of_file follows found member

/-- In the chain of a workflow with two tools, the last pipeline gets what the second tool wrote. -/
theorem flows_twoTools :
    ∃ compilation graph, compile .twoTools {} .twoTools = .ok compilation ∧
      Graph.build .twoTools 64 = .ok graph ∧ compilation.chain.Flows graph := by
  obtain ⟨compilation, compiled⟩ := compile_twoTools
  obtain ⟨graph, built, flows⟩ := flows_of_compile compiled
  exact ⟨compilation, graph, compiled, built, flows⟩

end Compilation

end WorkflowChain
