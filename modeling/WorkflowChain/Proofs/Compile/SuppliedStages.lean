import WorkflowChain.Proofs.Compile.FinalFragment
import WorkflowChain.Proofs.Compile.PipeOrder
import WorkflowChain.Proofs.Compile.Resolution

/-! # Stages for what a fragment is supplied with

A pipeline step supplies its fragment with the slots of isolated artifacts. Which slots these are is
read off the graph, and which stages the fragment has off the templates in the store: the last
template of a side has the name of the slot. For the artifact of a tool there always is one, since
the step of the tool could only be compiled because each declared output has a location. A dataset
may be known without any templates; then its slot is supplied, but no stage has its name.
-/

namespace WorkflowChain

/-- An artifact is a dataset that is known without templates, so that nothing loads it. -/
def Store.LoadsNothing (store : Store) (node : Node) : Prop :=
  node.isDataset = true ∧ store.datasetTemplates node.identifier = .ok []

/-- A pipeline step supplies stages of its fragment. -/
structure SuppliesStages (pipeline : PipelineStep) (fragment : Fragment) (store : Store)
    (graph : Graph) : Prop where
  /-- Every slot that is supplied is that of an artifact. -/
  artifact : ∀ slot ∈ pipeline.inputs.toContainer,
    ∃ node ∈ graph.nodes, node.isContextNode = true ∧ slot = node.slot .output
  /-- A slot that is supplied is the name of a stage, unless nothing loads the artifact. -/
  stage : ∀ node ∈ graph.nodes, node.slot .output ∈ pipeline.inputs.toContainer →
    (node.slot .output ∈ fragment.stages.map Stage.name ↔ ¬store.LoadsNothing node)
  /-- The names of stages are those that the pipe runs. -/
  pipe : ∀ name, name ∈ fragment.pipeNames ↔ name ∈ fragment.stages.map Stage.name

namespace Assembly

variable {store : Store} {isFinal : Bool} {target : Option Target} {node : Node}

/-! ## The stage with the name of a slot -/

theorem slot_mem_templateStages {direction : Direction} {templates : List Template} :
    node.slot direction ∈ (templateStages node direction templates).map Stage.name ↔
      templates ≠ [] := by
  constructor
  · rintro member rfl
    exact absurd member List.not_mem_nil
  · intro nonempty
    have last := List.getLast?_eq_some_getLast nonempty
    exact List.mem_map.mpr ⟨_, ofTemplate_mem_templateStages last, rfl⟩

section Sources

variable {sources : List Stage} (loaded : sourceStages store isFinal target node = .ok sources)

include loaded

theorem slot_mem_sourceStages_of_dataset (dataset : node.isDataset = true) :
    node.slot .output ∈ sources.map Stage.name ↔ ¬store.LoadsNothing node := by
  rw [sourceStages, if_pos dataset] at loaded
  obtain ⟨templates, known, made⟩ := bind_ok.mp loaded
  cases made
  rw [slot_mem_templateStages, Store.LoadsNothing, known, Except.ok.injEq]
  exact ⟨fun nonempty none => nonempty none.2, fun some none => some ⟨dataset, none⟩⟩

/-- A stage of a produced artifact has the name of the slot if the producer has templates for it. -/
theorem slot_mem_sourceStages_of_tool (produced : node.isDataset = false)
    (byTool : node.kind.output ≠ "")
    (documented : ∀ templates, store.toolTemplates node.kind.output .output node.identifier =
      .ok templates → templates ≠ []) :
    node.slot .output ∈ sources.map Stage.name := by
  rw [sourceStages_of_tool produced byTool] at loaded
  obtain ⟨templates, known, made⟩ := bind_ok.mp loaded
  have nonempty := documented templates known
  cases isFinal with
  | true =>
    obtain ⟨exported, own, made⟩ := bind_ok.mp made
    cases made
    obtain ⟨_, rfl⟩ := exportStage_ok own
    exact List.mem_cons_self
  | false =>
    obtain ⟨native, _, made⟩ := bind_ok.mp made
    cases made
    exact List.mem_cons_of_mem _ (slot_mem_templateStages.mpr nonempty)

end Sources

namespace Parts

variable {assembly : Assembly} {nodes : List Node} {own : List Stage}
  {sources sinks : List (List Stage)}
  (parts : assembly.Parts store nodes isFinal target own sources sinks)

include parts

theorem mem_pipeNames (name : String) :
    name ∈ assembly.fragment.pipeNames ↔ name ∈ assembly.fragment.stages.map Stage.name := by
  rw [parts.pipeNames_eq]
  exact (parts.stages_perm.map Stage.name).mem_iff.symm

/-- A stage with the name of a slot is a source of the node of the slot. -/
theorem slot_mem_stages {group : List Stage} (used : node ∈ nodes)
    (alone : ∀ other ∈ nodes, node.id = other.id → node = other)
    (loaded : sourceStages store isFinal target node = .ok group) :
    node.slot .output ∈ assembly.fragment.stages.map Stage.name ↔
      node.slot .output ∈ group.map Stage.name := by
  have named : node.StageName .output (node.slot .output) := .plain .output
  constructor
  · intro member
    obtain ⟨stage, listed, same⟩ := List.mem_map.mp member
    rw [← same] at named ⊢
    rw [parts.stages, List.mem_append] at listed
    rcases listed with listed | adapter
    · rcases List.mem_append.mp (parts.order.mem_iff.mp listed) with source | sink
      · obtain ⟨others, known, inside⟩ := List.mem_flatten.mp source
        obtain ⟨other, present, made⟩ := exists_item_of_mapM_ok parts.loaded known
        obtain rfl := alone other present (named.unique (mem_sourceStages made inside).2.1).1
        cases loaded.symm.trans made
        exact List.mem_map_of_mem inside
      · obtain ⟨_, _, again, _⟩ := exists_node_of_mem_sinks parts.handled sink
        cases (named.unique again).2
    · exact absurd (isAdapter_of_mem_adaptersFor adapter).1 named.not_isAdapterName
  · intro member
    obtain ⟨stage, inside, same⟩ := List.mem_map.mp member
    obtain ⟨others, known, made⟩ := exists_result_of_mapM_ok parts.loaded used
    cases loaded.symm.trans made
    have source : stage ∈ sources.flatten := List.mem_flatten.mpr ⟨group, known, inside⟩
    have listed := parts.order.mem_iff.mpr (List.mem_append_left _ source)
    rw [parts.stages, ← same]
    exact List.mem_map_of_mem (List.mem_append_left _ listed)

end Parts

end Assembly

namespace Compilation

section Follows

variable {store : Store} {settings : Settings} {graph : Graph} {root : Description}
  {compilation : Compilation} (follows : compilation.Follows store settings graph)
  (laid : graph.nodes = root.positions.map (root.nodeAt 0))

include follows laid

/-- The producer of an artifact has templates for it: its own step names the file of each. -/
theorem Follows.templates_ne_nil {node : Node} (listed : node ∈ graph.nodes)
    (produced : node.isDataset = false) (byTool : node.kind.output ≠ "")
    {templates : List Template}
    (known : store.toolTemplates node.kind.output .output node.identifier = .ok templates) :
    templates ≠ [] := by
  obtain ⟨step, member, same⟩ :=
    Graph.exists_step_of_producer laid listed byTool (of_decide_eq_false produced)
  obtain ⟨_, _, descriptor, tool, own⟩ := follows.exists_step member
  obtain ⟨found, described, documented⟩ := Store.toolTemplates_ok.mp known
  rw [← same] at described
  obtain rfl : descriptor = found := Except.ok.inj (own.described.symm.trans described)
  obtain ⟨location, _, first⟩ := Descriptor.exists_outputFileName own.runs.outputs documented
  rintro rfl
  cases first

/-- A pipeline step supplies stages of a fragment over nodes of the graph. -/
theorem Follows.suppliesStages {fileName : String} {isFinal isLast : Bool}
    {target : Option Target} {nodes : List Node} {assembly : Assembly}
    (known : nodes ⊆ graph.nodes)
    (assembled : Assembly.ofNodes store nodes isFinal target = .ok assembly) :
    SuppliesStages (pipelineStep settings fileName nodes isLast) assembly.fragment store graph := by
  obtain ⟨own, sources, sinks, parts⟩ := Assembly.parts_of_ofNodes assembled
  constructor
  case artifact =>
    intro slot member
    obtain ⟨node, used, context, same⟩ := mem_toContainer.mp member
    exact ⟨node, known used, context, same⟩
  case stage =>
    intro node listed member
    obtain ⟨other, used, context, same⟩ := mem_toContainer.mp member
    obtain rfl := Graph.eq_of_id_eq laid listed (known used) (Node.id_eq_of_slot_eq same)
    obtain ⟨group, _, loaded, _⟩ := Assembly.nodeStages_of_ofNodes assembled used
    have alone : ∀ other ∈ nodes, node.id = other.id → node = other :=
      fun other also => Graph.eq_of_id_eq laid listed (known also)
    rw [parts.slot_mem_stages used alone loaded]
    cases dataset : node.isDataset with
    | true => exact Assembly.slot_mem_sourceStages_of_dataset loaded dataset
    | false =>
      have byTool : node.kind.output ≠ "" := by
        intro none
        rw [Node.isContextNode, none] at context
        cases context
      have stage := Assembly.slot_mem_sourceStages_of_tool loaded dataset byTool
        fun _ => follows.templates_ne_nil laid listed dataset byTool
      refine iff_of_true stage ?_
      rintro ⟨also, _⟩
      cases dataset.symm.trans also
  case pipe => exact parts.mem_pipeNames

end Follows

/-- **Which supplied slots are stages.** -/
theorem suppliesStages_of_compile {store : Store} {settings : Settings} {root : Description}
    {compilation : Compilation} (compiled : compile store settings root = .ok compilation) :
    ∃ graph, Graph.build root settings.maxDepth = .ok graph ∧
      ∀ place pipeline, compilation.chain.steps[place]? = some (.pipeline pipeline) →
        ∃ index fragment, place = 2 * index ∧ compilation.RunsFragment index pipeline fragment ∧
          SuppliesStages pipeline fragment store graph := by
  obtain ⟨graph, built, follows⟩ := compile_ok compiled
  have laid := Graph.nodes_of_build built
  refine ⟨graph, built, ?_⟩
  intro place pipeline found
  rcases follows.cases_step found with
    ⟨index, node, assembly, _, _, known, step, ⟨rfl, same⟩ | ⟨_, same⟩⟩ |
    ⟨last, assembly, known, final, rfl, same⟩
  · cases same
    exact ⟨index, _, rfl, step.runsFragment, follows.suppliesStages laid
      (fun _ => Graph.mem_nodes_of_mem_inputsOf) step.assembled⟩
  · cases same
  · cases same
    exact ⟨_, _, rfl, final.runsFragment, follows.suppliesStages laid
      (fun _ => Graph.mem_nodes_of_mem_outputsOf) final.assembled⟩

/-- The second fragment of the workflow with two tools has stages for the geometry and the mesh. -/
theorem suppliesStages_twoTools :
    ∃ compilation pipeline fragment graph, compile .twoTools {} .twoTools = .ok compilation ∧
      compilation.RunsFragment 1 pipeline fragment ∧
      SuppliesStages pipeline fragment .twoTools graph ∧
      pipeline.inputs.toContainer = ["datanode_0_output", "datanode_3_output"] ∧
      ∀ slot ∈ pipeline.inputs.toContainer, slot ∈ fragment.stages.map Stage.name := by
  obtain ⟨compilation, compiled⟩ := compile_twoTools
  obtain ⟨graph, built, each⟩ := suppliesStages_of_compile compiled
  cases built
  cases compiled
  obtain ⟨index, fragment, place, runs, supplies⟩ := each 2 _ rfl
  obtain rfl : index = 1 := by omega
  obtain ⟨_, found, _⟩ := runs.file
  cases found
  refine ⟨_, _, _, _, rfl, runs, supplies, rfl, ?_⟩
  decide

end Compilation

/-! ## A slot without a stage -/

/-- The tool with a log file reads a dataset that is known without templates. -/
def Store.blankDataset : Store :=
  Store.loggingTool.insert "raw" (.dataset [])

/-- The slot of a dataset without templates is supplied, and no stage has its name. -/
theorem Compilation.exists_supplied_without_stage :
    ∃ compilation pipeline fragment slot,
      compile .blankDataset {} .oneTool = .ok compilation ∧
      compilation.RunsFragment 0 pipeline fragment ∧ slot ∈ pipeline.inputs.toContainer ∧
      slot ∉ fragment.stages.map Stage.name ∧ slot ∉ fragment.pipeNames := by
  refine ⟨_, _, _, "datanode_0_output", rfl, ⟨rfl, _, rfl, rfl⟩, ?_, ?_, ?_⟩
  · decide
  · decide
  · decide

end WorkflowChain
