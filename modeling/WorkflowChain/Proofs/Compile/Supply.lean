import WorkflowChain.Proofs.Compile.FragmentStages
import WorkflowChain.Proofs.Compile.SlotFlow

/-! # Artifacts that a fragment is supplied with

A fragment converts or exports artifacts that tools produced, and names the slot of each in the
configuration of a stage. The pipeline step supplies the slots of isolated artifacts, which consume
nothing and produce nothing. No node of a fragment produces anything, so that an artifact is
supplied exactly if it consumes nothing: one with a producer and inputs of its own is named by its
stage, but not supplied.
-/

namespace WorkflowChain

/-- The slot of the artifact that a stage names in its configuration. -/
def Stage.datanode? (stage : Stage) : Option String :=
  ((stage.config.lookup "configuration").bind (Value.field? "datanode")).bind Value.text?

/-- A pipeline step supplies the artifacts that its fragment converts or exports. -/
structure Supplies (pipeline : PipelineStep) (fragment : Fragment) (graph : Graph) : Prop where
  /-- Stages that convert or export artifacts are the only ones that are neither adapters nor made
  from templates. -/
  stages : ∀ stage ∈ fragment.stages, stage.kind = .adapter ∨
    (∃ template, stage = Stage.ofTemplate template stage.name) ∨
      ∃ node ∈ graph.nodes, Assembly.Synthesized node stage
  /-- The slot of an artifact is supplied exactly if the artifact consumes nothing. -/
  artifact : ∀ node ∈ graph.nodes, ∀ stage ∈ fragment.stages, Assembly.Synthesized node stage →
    stage.datanode? = some (node.slot .output) ∧
      (node.slot .output ∈ pipeline.inputs.toContainer ↔ node.inputs = [])
  /-- The slots that are supplied, and no others, are bound in the context. -/
  context : ∀ slot, pipeline.inputs.context.lookup slot =
    if slot ∈ pipeline.inputs.toContainer then some (Slot.reference slot) else none

namespace Assembly

variable {store : Store} {isFinal : Bool} {target : Option Target} {node : Node}

theorem Synthesized.datanode?_eq {stage : Stage} (made : Synthesized node stage) :
    stage.datanode? = some (node.slot .output) := by
  cases made with
  | conversion => rfl
  | exporting made =>
    obtain ⟨_, rfl⟩ := exportStage_ok made
    rfl

namespace Parts

variable {assembly : Assembly} {nodes : List Node} {own : List Stage}
  {sources sinks : List (List Stage)}
  (parts : assembly.Parts store nodes isFinal target own sources sinks)

include parts

/-- A stage of a fragment is an adapter, is made of a template, or is synthesized for a node. -/
theorem cases_stage {stage : Stage} (member : stage ∈ assembly.fragment.stages) :
    stage.kind = .adapter ∨ (∃ template, stage = Stage.ofTemplate template stage.name) ∨
      ∃ node ∈ nodes, Synthesized node stage := by
  rw [parts.stages, List.mem_append] at member
  rcases member with member | adapter
  · right
    rcases parts.exists_node_of_mem_own member with
      ⟨node, used, _, _, template | made⟩ | ⟨_, _, _, template⟩
    · exact .inl template
    · exact .inr ⟨node, used, made⟩
    · exact .inl template
  · exact .inl (isAdapter_of_mem_adaptersFor adapter).2

theorem exists_node_of_synthesized {stage : Stage} (member : stage ∈ assembly.fragment.stages)
    (made : Synthesized node stage) :
    ∃ source ∈ nodes, source.id = node.id ∧ source.kind.output ≠ "" := by
  rw [parts.stages, List.mem_append] at member
  rcases member with member | adapter
  · rcases parts.exists_node_of_mem_own member with
      ⟨source, used, produced, named, _⟩ | ⟨_, _, named, _⟩
    · exact ⟨source, used, (named.unique made.stageName).1, produced⟩
    · cases (named.unique made.stageName).2
  · have kind := (isAdapter_of_mem_adaptersFor adapter).2
    rw [made.kind] at kind
    cases kind

end Parts

end Assembly

namespace Compilation

variable {store : Store} {settings : Settings} {graph : Graph} {root : Description}

/-- A pipeline step gives each slot that it takes into the container its own reference. -/
theorem lookup_context_pipelineStep {fileName : String} {nodes : List Node} {isLast : Bool}
    (slot : String) :
    (pipelineStep settings fileName nodes isLast).inputs.context.lookup slot =
      if slot ∈ (pipelineStep settings fileName nodes isLast).inputs.toContainer then
        some (Slot.reference slot)
      else none :=
  Table.lookup_ofEntries_map slot _ Slot.reference

/-- A pipeline step supplies a fragment over nodes that produce nothing. -/
theorem supplies_of_parts {fileName : String} {isFinal isLast : Bool} {target : Option Target}
    {nodes : List Node} {assembly : Assembly}
    (laid : graph.nodes = root.positions.map (root.nodeAt 0)) (known : nodes ⊆ graph.nodes)
    (terminal : ∀ node ∈ nodes, node.outputs = [])
    (assembled : Assembly.ofNodes store nodes isFinal target = .ok assembly) :
    Supplies (pipelineStep settings fileName nodes isLast) assembly.fragment graph := by
  obtain ⟨own, sources, sinks, parts⟩ := Assembly.parts_of_ofNodes assembled
  constructor
  case stages =>
    intro stage member
    rcases parts.cases_stage member with adapter | template | ⟨node, used, made⟩
    · exact .inl adapter
    · exact .inr (.inl template)
    · exact .inr (.inr ⟨node, known used, made⟩)
  case artifact =>
    intro node listed stage member made
    refine ⟨made.datanode?_eq, ?_⟩
    obtain ⟨source, used, same, produced⟩ := parts.exists_node_of_synthesized member made
    obtain rfl := Graph.eq_of_id_eq laid (known used) listed same
    rw [mem_toContainer]
    constructor
    · rintro ⟨other, others, isolated, slots⟩
      obtain rfl := Graph.eq_of_id_eq laid listed (known others) (Node.id_eq_of_slot_eq slots)
      rw [Node.isContextNode, Bool.and_eq_true, Bool.and_eq_true, List.isEmpty_iff] at isolated
      exact isolated.1.2
    · intro consumes
      refine ⟨source, used, ?_, rfl⟩
      simpa [Node.isContextNode, consumes, terminal source used] using produced
  case context => exact lookup_context_pipelineStep

/-- **Which artifacts are supplied.** -/
theorem supplies_of_compile {compilation : Compilation}
    (compiled : compile store settings root = .ok compilation) :
    ∃ graph, Graph.build root settings.maxDepth = .ok graph ∧
      ∀ place pipeline, compilation.chain.steps[place]? = some (.pipeline pipeline) →
        ∃ index fragment, place = 2 * index ∧ compilation.RunsFragment index pipeline fragment ∧
          Supplies pipeline fragment graph := by
  obtain ⟨graph, built, follows⟩ := compile_ok compiled
  have laid := Graph.nodes_of_build built
  refine ⟨graph, built, ?_⟩
  intro place pipeline found
  rcases follows.cases_step found with
    ⟨index, node, assembly, _, _, known, step, ⟨rfl, same⟩ | ⟨_, same⟩⟩ |
    ⟨last, assembly, known, final, rfl, same⟩
  · cases same
    refine ⟨index, _, rfl, step.runsFragment, ?_⟩
    have listed : node ∈ graph.nodes := List.mem_of_mem_filter (List.mem_of_getElem? known)
    exact supplies_of_parts laid (fun _ => Graph.mem_nodes_of_mem_inputsOf)
      (fun _ used => (Graph.consumer_of_mem_inputsOf built listed used).2.2) step.assembled
  · cases same
  · cases same
    refine ⟨_, _, rfl, final.runsFragment, ?_⟩
    exact supplies_of_parts laid (fun _ => Graph.mem_nodes_of_mem_outputsOf)
      (fun _ => Graph.outputs_of_mem_outputsOf_last laid known) final.assembled

/-- The second fragment of the workflow with two tools converts the mesh, which consumes nothing and
is supplied. -/
theorem supplies_twoTools :
    ∃ compilation pipeline fragment graph stage, compile .twoTools {} .twoTools = .ok compilation ∧
      compilation.RunsFragment 1 pipeline fragment ∧ Supplies pipeline fragment graph ∧
      stage ∈ fragment.stages ∧ stage.datanode? = some "datanode_3_output" ∧
      "datanode_3_output" ∈ pipeline.inputs.toContainer := by
  obtain ⟨compilation, compiled⟩ := compile_twoTools
  obtain ⟨graph, built, each⟩ := supplies_of_compile compiled
  cases built
  cases compiled
  obtain ⟨index, fragment, place, runs, supplies⟩ := each 2 _ rfl
  obtain rfl : index = 1 := by omega
  obtain ⟨_, found, _⟩ := runs.file
  cases found
  refine ⟨_, _, _, _, _, rfl, runs, supplies, List.mem_cons_of_mem _ (List.mem_cons_of_mem _
    List.mem_cons_self), rfl, ?_⟩
  decide

end Compilation

/-! ## An artifact that is not supplied -/

/-- A result that a tool produces from a dataset, and that consumes another dataset itself. -/
def Description.annotatedResult : Description :=
  ((branch "result").producedBy ((branch "tool").consuming (leaf "raw"))).consuming (leaf "notes")

/-- What there is to know for the annotated result. -/
def Store.annotatedResult : Store where
  entries :=
    [("raw", .dataset
        [⟨"dataresource", [("downloadUrl", .text "https://example.org/raw.csv")]⟩]),
      ("notes", .dataset
        [⟨"dataresource", [("downloadUrl", .text "https://example.org/notes.txt")]⟩]),
      ("tool", .tool
        { input := [("raw", [⟨"function", [("location", .text "raw.csv")]⟩])]
          output := [("result", [⟨"dataresource", [("downloadUrl", .text "result.csv")]⟩])]
          command := some "tool.sh --in raw.csv"
          executor := some "execwrapper" })]

/-- The final fragment exports the result, whose slot is not supplied. -/
theorem Compilation.exists_unsupplied :
    ∃ compilation pipeline fragment node stage slot,
      compile .annotatedResult {} .annotatedResult = .ok compilation ∧
      compilation.RunsFragment 1 pipeline fragment ∧ stage ∈ fragment.stages ∧
      Assembly.Synthesized node stage ∧ stage.functionType? = some Assembly.exportFunction ∧
      stage.datanode? = some slot ∧ slot ∉ pipeline.inputs.toContainer := by
  refine ⟨_, _, _, Description.annotatedResult.nodeAt 0 [], _, "datanode_3_output", rfl,
    ⟨rfl, _, rfl, rfl⟩, List.mem_cons_self, ?_, rfl, rfl, ?_⟩
  · exact @Assembly.Synthesized.exporting _
      [⟨"dataresource", [("downloadUrl", .text "result.csv")]⟩] none _ rfl
  · decide

end WorkflowChain
