import WorkflowChain.Proofs.Compile.Parts
import WorkflowChain.Proofs.Knowledge.Agreement
import WorkflowChain.Proofs.Workflow.Layout

/-! # Compiling with stores that agree

A compilation asks its store only for identifiers that its description mentions: those of its nodes,
their producers and their consumers. With two stores that agree on these it ends alike
(`compile_alike`).
-/

namespace WorkflowChain

/-- Everything that a node mentions is known. -/
structure Node.Mentions (known : String → Prop) (node : Node) : Prop where
  identifier : known node.identifier
  producer : node.kind.output = "" ∨ node.kind.output = datasetKind ∨ known node.kind.output
  consumer : node.kind.input = "" ∨ known node.kind.input

/-- Everything that a description mentions is known. -/
def Description.Mentions (known : String → Prop) (root : Description) : Prop :=
  ∀ position description, root.at? position = some description →
    ∀ identifier, description.identifier = some identifier → known identifier

/-- What holds of the identifiers that a description mentions holds at each of its positions. -/
theorem Description.mentions_iff {known : String → Prop} {root : Description} :
    root.Mentions known ↔ ∀ position ∈ root.positions,
      ∀ identifier ∈ (root.at? position).bind Description.identifier, known identifier := by
  constructor
  · intro mentions position _ identifier named
    obtain ⟨description, found, named⟩ := Option.bind_eq_some_iff.mp named
    exact mentions position description found identifier named
  · intro each position description found identifier named
    apply each position (mem_positions.mpr ⟨description, found⟩)
    rw [found]
    exact named

/-! ## What a graph mentions -/

namespace Graph

variable {known : String → Prop} {root : Description}

/-- The producer of a description is one of its children, if it is a tool. -/
theorem known_producer {graph : Graph} {limit : Nat} {position : Position}
    {description : Description} (built : build root limit = .ok graph)
    (mentions : root.Mentions known) (found : root.at? position = some description) :
    description.producer = "" ∨ description.producer = datasetKind ∨
      known description.producer := by
  by_cases named : description.producer = ""
  · exact .inl named
  by_cases tool : description.producer = datasetKind
  · exact .inr (.inl tool)
  obtain ⟨index, child, chosen, _, same⟩ := Description.exists_production tool named
  have below : root.at? (position ++ [index]) = some child := by
    rw [Description.at?_child found, chosen]
  rw [← same]
  exact .inr (.inr (mentions _ _ below _ (named_of_build built below).1))

/-- The nodes of a graph mention what its description mentions. -/
theorem mentions_of_build {graph : Graph} {limit : Nat} (built : build root limit = .ok graph)
    (mentions : root.Mentions known) : ∀ node ∈ graph.nodes, node.Mentions known := by
  intro node listed
  rw [nodes_of_build built] at listed
  obtain ⟨position, member, rfl⟩ := List.mem_map.mp listed
  have names : ∀ place ∈ root.positions, known (root.descriptionAt place).name := by
    intro place inside
    have found := Description.at?_descriptionAt inside
    exact mentions _ _ found _ (named_of_build built found).1
  constructor
  case identifier => exact names position member
  case producer => exact known_producer built mentions (Description.at?_descriptionAt member)
  case consumer =>
    rw [Description.nodeAt, Description.consumerAt]
    split
    · exact .inl rfl
    · exact .inr (names _ (Description.dropLast_mem_positions member))

end Graph

/-! ## Compiling with stores that agree -/

section Agreement

variable {reasons : Failure → Failure → Prop} {known : String → Prop} {store other : Store}
  (reflexive : ∀ failure, reasons failure failure) (agrees : store.AgreesOn reasons known other)

include reflexive agrees

namespace Assembly

variable {node : Node} (mentions : node.Mentions known) (isFinal : Bool) (target : Option Target)

include mentions

theorem sourceStages_alike :
    RunsAlike reasons Eq (sourceStages store isFinal target node)
      (sourceStages other isFinal target node) := by
  unfold sourceStages
  by_cases dataset : node.isDataset = true
  · simp only [dataset, ↓reduceIte]
    exact (Store.datasetTemplates_alike reflexive agrees mentions.identifier).bind_eq
      fun _ => .ok rfl
  by_cases produced : node.kind.output.isEmpty = true
  · simp only [dataset, produced, ↓reduceIte]
    exact .ok rfl
  -- What is no dataset and has a producer is made by a tool, which is known.
  have tool : known node.kind.output := by
    rcases mentions.producer with empty | loaded | tool
    · exact absurd (String.isEmpty_iff.mpr empty) produced
    · exact absurd (decide_eq_true loaded) dataset
    · exact tool
  simp only [dataset, produced]
  refine (Store.toolTemplates_alike reflexive agrees .output tool mentions.identifier).bind_eq
    fun templates => ?_
  split
  · exact .refl reflexive _
  · exact (Store.datanodeType_alike reflexive agrees mentions.identifier).bind_eq fun _ => .ok rfl

theorem sinkStages_alike :
    RunsAlike reasons Eq (sinkStages store isFinal node) (sinkStages other isFinal node) := by
  unfold sinkStages
  by_cases unused : (isFinal || node.kind.input.isEmpty) = true
  · simp only [unused, ↓reduceIte]
    exact .ok rfl
  have tool : known node.kind.input := by
    rcases mentions.consumer with empty | tool
    · simp [empty] at unused
    · exact tool
  simp only [unused]
  exact (Store.toolTemplates_alike reflexive agrees .input tool mentions.identifier).bind_eq
    fun _ => .ok rfl

theorem nodeStages_alike :
    RunsAlike reasons Eq (nodeStages store isFinal target node)
      (nodeStages other isFinal target node) :=
  (sourceStages_alike reflexive agrees mentions isFinal target).bind_eq fun _ =>
    (sinkStages_alike reflexive agrees mentions isFinal).bind_eq fun _ => .ok rfl

omit mentions in

/-- Fragments over nodes that mention only what is known are the same in both stores. -/
theorem ofNodes_alike {nodes : List Node} (mentioned : ∀ node ∈ nodes, node.Mentions known) :
    RunsAlike reasons Eq (ofNodes store nodes isFinal target)
      (ofNodes other nodes isFinal target) := by
  have each := RunsAlike.mapM_eq fun node member =>
    nodeStages_alike reflexive agrees (mentioned node member) isFinal target
  rw [ofNodes_eq, ofNodes_eq]
  exact (RunsAlike.refl reflexive _).bind_eq fun _ => each.bind_eq fun _ => .refl reflexive _

end Assembly

namespace Compilation

omit agrees in

/-- Descriptors that agree bind the same files. -/
theorem toolBindings_alike {descriptor partner : Descriptor} {inputs : List Node}
    (related : descriptor.AgreesOn reasons known partner)
    (mentioned : ∀ input ∈ inputs, input.Mentions known) (tool : String) :
    RunsAlike reasons Eq (toolBindings tool descriptor inputs)
      (toolBindings tool partner inputs) := by
  have named : ∀ input ∈ inputs,
      descriptor.inputFileName? input.identifier = partner.inputFileName? input.identifier := by
    intro input member
    unfold Descriptor.inputFileName?
    rw [related.templates .input _ (mentioned input member).identifier]
  unfold toolBindings
  rw [related.files]
  refine RunsAlike.bind_eq (.mapM_eq fun input member => ?_) fun _ => .ok rfl
  rw [named input member]
  exact .refl reflexive _

variable {graph : Graph} (mentioned : ∀ node ∈ graph.nodes, node.Mentions known)

include mentioned

omit agrees in

theorem toolStep_alike {descriptor partner : Descriptor}
    (related : descriptor.AgreesOn reasons known partner) (node : Node) :
    RunsAlike reasons Eq (toolStep graph node descriptor) (toolStep graph node partner) := by
  have inputs : ∀ input ∈ graph.inputsOf node, input.Mentions known :=
    fun input member => mentioned input (Graph.mem_nodes_of_mem_inputsOf member)
  unfold toolStep program executor
  rw [related.command, related.executor]
  exact (toolBindings_alike reflexive related inputs node.identifier).bind_eq fun _ =>
    (RunsAlike.refl reflexive _).bind_eq fun _ => (RunsAlike.refl reflexive _).bind_eq fun _ =>
      (related.outputs node.identifier).bind_eq fun _ => .ok rfl

theorem stepPart_alike (settings : Settings) (place : Nat) {node : Node}
    (listed : node ∈ graph.nodes) :
    RunsAlike reasons Eq (stepPart store settings graph place node)
      (stepPart other settings graph place node) := by
  have inputs : ∀ input ∈ graph.inputsOf node, input.Mentions known :=
    fun input member => mentioned input (Graph.mem_nodes_of_mem_inputsOf member)
  have tool := (mentioned node listed).identifier
  exact (Assembly.ofNodes_alike reflexive agrees false none inputs).bind_eq fun _ =>
    (Store.descriptor_alike reflexive agrees tool).bind fun _ _ related =>
      (toolStep_alike reflexive mentioned related node).bind_eq fun _ => .ok rfl

theorem stepParts_alike (settings : Settings) {nodes : List Node} (listed : nodes ⊆ graph.nodes)
    (place : Nat) :
    RunsAlike reasons Eq (stepParts store settings graph place nodes)
      (stepParts other settings graph place nodes) := by
  induction nodes generalizing place with
  | nil => exact .ok rfl
  | cons node rest ih =>
    have ⟨here, later⟩ := List.cons_subset.mp listed
    exact (stepPart_alike reflexive agrees mentioned settings place here).bind_eq fun _ =>
      (ih later (place + 1)).bind_eq fun _ => .ok rfl

theorem finalPart_alike (settings : Settings) (last : Node) :
    RunsAlike reasons Eq (finalPart store settings graph last)
      (finalPart other settings graph last) := by
  have outputs : ∀ output ∈ graph.outputsOf last, output.Mentions known :=
    fun output member => mentioned output (Graph.mem_nodes_of_mem_outputsOf member)
  exact (Assembly.ofNodes_alike reflexive agrees true settings.target outputs).bind_eq
    fun _ => .ok rfl

/-- A graph is compiled to the same with both stores, or refused for reasons that match. -/
theorem ofGraph_alike (settings : Settings) :
    RunsAlike reasons Eq (ofGraph store settings graph) (ofGraph other settings graph) := by
  refine (stepParts_alike reflexive agrees mentioned settings (List.filter_subset_self _) 0).bind_eq
    fun parts => ?_
  cases graph.steps.getLast? with
  | none => exact .ok rfl
  | some last =>
    exact (finalPart_alike reflexive agrees mentioned settings last).bind_eq fun _ => .ok rfl

end Compilation

/-- **Compiling with stores that agree.** -/
theorem compile_alike (settings : Settings) {root : Description} (mentions : root.Mentions known) :
    RunsAlike reasons Eq (compile store settings root) (compile other settings root) := by
  rw [Compilation.compile_eq, Compilation.compile_eq]
  refine (RunsAlike.refl reflexive _).bind_eq fun _ => ?_
  cases built : Graph.build root settings.maxDepth with
  | error reason => exact .error (reflexive _)
  | ok graph =>
    have mentioned := Graph.mentions_of_build built mentions
    exact Compilation.ofGraph_alike reflexive agrees mentioned settings

end Agreement

end WorkflowChain
