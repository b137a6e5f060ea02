import WorkflowChain.Proofs.Compile.Supply
import WorkflowChain.Proofs.Knowledge.CompactKeys

/-! # Tools that have to be known

A node names what produces and what consumes its artifact. A workflow is compiled only if every
producer is a tool of the store, as each of them is a step. A consumer is looked up if it is a step,
or an artifact that a tool produces and that a step consumes, whose native type is asked for. Of any
other consumer, as an artifact that no step reads, nothing has to be known.
-/

namespace WorkflowChain

/-- The entry under an identifier, or else under its compact form, is a tool. -/
def Store.HasTool (store : Store) (identifier : String) : Prop :=
  ∃ descriptor, (store.lookup? identifier).or (store.lookupCompact? identifier) =
    some (.tool descriptor)

/-- A node is a step, or an artifact that a tool produces and that a step consumes. -/
def Graph.IsLookedUp (graph : Graph) (node : Node) : Prop :=
  node ∈ graph.steps ∨ node.kind.output ≠ "" ∧ node.kind.output ≠ datasetKind ∧
    ∃ step ∈ graph.steps, node ∈ graph.inputsOf step

/-- A store knows the tools that the nodes of a graph name. -/
structure Graph.ResolvesIn (graph : Graph) (store : Store) : Prop where
  producer : ∀ node ∈ graph.nodes, node.kind.output ≠ "" → node.kind.output ≠ datasetKind →
    store.HasTool node.kind.output
  /-- A consumer that is named is a node of the graph, which has the artifact as an input. -/
  named : ∀ node ∈ graph.nodes, node.kind.input ≠ "" →
    ∃ consumer ∈ graph.nodes, node ∈ graph.inputsOf consumer ∧
      node.kind.input = consumer.identifier
  consumer : ∀ node consumer, consumer ∈ graph.nodes → node ∈ graph.inputsOf consumer →
    graph.IsLookedUp consumer → store.HasTool node.kind.input

/-! ## Tools of a store -/

namespace Store

variable {store : Store} {identifier : String}

theorem hasTool_of_resolve {context : String} {entry : Entry} {descriptor : Descriptor}
    (found : store.resolve identifier context = .ok entry)
    (tool : entry.descriptor identifier = .ok descriptor) : store.HasTool identifier := by
  cases entry with
  | dataset => cases tool
  | tool known =>
    refine ⟨known, ?_⟩
    rw [resolve_eq] at found
    unfold lookupCompact? lookup?
    cases entries : (store.entries.lookup identifier).or
        (store.entries.lookup (Iri.compact identifier)) with
    | none =>
      rw [entries] at found
      cases found
    | some entry =>
      rw [entries] at found
      exact congrArg some (Except.ok.inj found)

theorem hasTool_of_descriptor {descriptor : Descriptor}
    (described : store.descriptor identifier = .ok descriptor) : store.HasTool identifier := by
  obtain ⟨entry, found, tool⟩ := bind_ok.mp described
  exact hasTool_of_resolve found tool

theorem hasTool_of_datanodeType {type : String} (typed : store.datanodeType identifier = .ok type) :
    store.HasTool identifier := by
  obtain ⟨entry, found, typed⟩ := bind_ok.mp typed
  obtain ⟨descriptor, tool, _⟩ := bind_ok.mp typed
  exact hasTool_of_resolve found tool

end Store

/-- An artifact that a tool produces has a native type, unless it is exported. -/
theorem Assembly.hasTool_of_sourceStages {store : Store} {target : Option Target} {node : Node}
    {sources : List Stage} (loaded : sourceStages store false target node = .ok sources)
    (produced : node.kind.output ≠ datasetKind) (byTool : node.kind.output ≠ "") :
    store.HasTool node.identifier := by
  rw [sourceStages_of_tool (decide_eq_false produced) byTool] at loaded
  obtain ⟨_, _, loaded⟩ := bind_ok.mp loaded
  obtain ⟨_, typed, _⟩ := bind_ok.mp loaded
  exact Store.hasTool_of_datanodeType typed

/-! ## Who produces and who consumes -/

namespace Graph

variable {graph : Graph} {root : Description} {node : Node}
  (laid : graph.nodes = root.positions.map (root.nodeAt 0)) (listed : node ∈ graph.nodes)

include laid listed

/-- A producer that is a tool is a step. -/
theorem exists_step_of_producer (byTool : node.kind.output ≠ "")
    (produced : node.kind.output ≠ datasetKind) :
    ∃ step ∈ graph.steps, step.identifier = node.kind.output := by
  rw [laid] at listed
  obtain ⟨position, member, rfl⟩ := List.mem_map.mp listed
  obtain ⟨index, child, chosen, produces, same⟩ :=
    Description.exists_production produced byTool
  have found : root.at? (position ++ [index]) = some child := by
    rw [Description.at?_child (Description.at?_descriptionAt member), chosen]
  refine ⟨root.nodeAt 0 (position ++ [index]), ?_, ?_⟩
  · rw [steps_eq laid]
    exact List.mem_map_of_mem (Description.mem_productions found produces)
  · rw [Description.nodeAt, Description.descriptionAt_eq found]
    exact same

/-- A consumer that is named stands above. -/
theorem exists_consumer (consumed : node.kind.input ≠ "") :
    ∃ consumer ∈ graph.nodes, node ∈ graph.inputsOf consumer ∧
      node.kind.input = consumer.identifier := by
  rw [laid] at listed
  obtain ⟨position, member, rfl⟩ := List.mem_map.mp listed
  rcases List.eq_nil_or_concat' position with rfl | ⟨above, index, rfl⟩
  · exact absurd rfl consumed
  · obtain ⟨child, found⟩ := Description.mem_positions.mp member
    obtain ⟨parent, reached, chosen⟩ := Description.exists_parent found
    have known := Description.mem_positions.mpr ⟨parent, reached⟩
    rw [Description.nodeAt, Description.consumerAt_child found] at consumed
    by_cases produces : child.isProduction = true
    · exact absurd (if_pos produces) consumed
    · refine ⟨root.nodeAt 0 above, laid ▸ List.mem_map_of_mem known, ?_, ?_⟩
      · rw [inputsOf_nodeAt laid known]
        apply List.mem_map_of_mem
        rw [Description.mem_consumedAt, Description.descriptionAt_eq reached]
        exact ⟨index, child, chosen, Bool.not_eq_true _ ▸ produces, rfl⟩
      · simp only [Description.nodeAt, Description.consumerAt_child found]
        exact if_neg produces

end Graph

/-! ## What a compilation resolves -/

namespace Compilation

section Follows

variable {store : Store} {settings : Settings} {graph : Graph} {compilation : Compilation}
  (follows : compilation.Follows store settings graph)

include follows

theorem Follows.exists_step {node : Node} (member : node ∈ graph.steps) :
    ∃ place assembly descriptor tool,
      compilation.HasStep store settings graph place node assembly descriptor tool := by
  obtain ⟨place, found⟩ := List.mem_iff_getElem?.mp member
  exact ⟨place, follows.step place node found⟩

theorem Follows.hasTool_of_step {node : Node} (member : node ∈ graph.steps) :
    store.HasTool node.identifier := by
  obtain ⟨_, _, _, _, step⟩ := follows.exists_step member
  exact Store.hasTool_of_descriptor step.described

/-- What a graph looks up is a tool in the store of a successful compilation. -/
theorem Follows.hasTool_of_isLookedUp {node : Node} (lookedUp : graph.IsLookedUp node) :
    store.HasTool node.identifier := by
  rcases lookedUp with member | ⟨byTool, produced, consumer, member, used⟩
  · exact follows.hasTool_of_step member
  · obtain ⟨_, _, _, _, step⟩ := follows.exists_step member
    obtain ⟨_, _, loaded, _⟩ := Assembly.nodeStages_of_ofNodes step.assembled used
    exact Assembly.hasTool_of_sourceStages loaded produced byTool

end Follows

/-- **Which tools are known.** After a successful compilation, every producer that the graph names
is a tool of the store, and so is every consumer that is a step, or is produced by a tool and
consumed by a step. -/
theorem resolves_of_compile {store : Store} {settings : Settings} {root : Description}
    {compilation : Compilation} (compiled : compile store settings root = .ok compilation) :
    ∃ graph, Graph.build root settings.maxDepth = .ok graph ∧ graph.ResolvesIn store := by
  obtain ⟨graph, built, follows⟩ := compile_ok compiled
  have laid := Graph.nodes_of_build built
  refine ⟨graph, built, ?_⟩
  constructor
  case producer =>
    intro node listed byTool produced
    obtain ⟨step, member, same⟩ := Graph.exists_step_of_producer laid listed byTool produced
    rw [← same]
    exact follows.hasTool_of_step member
  case named => exact fun node listed consumed => Graph.exists_consumer laid listed consumed
  case consumer =>
    intro node consumer listed used lookedUp
    rw [(Graph.consumer_of_mem_inputsOf built listed used).1]
    exact follows.hasTool_of_isLookedUp lookedUp

/-- The tools that write and read the mesh are known. -/
theorem resolves_twoTools :
    ∃ (graph : Graph) (mesh solver : Node), graph.ResolvesIn .twoTools ∧ mesh ∈ graph.nodes ∧
      mesh.kind = ⟨"mesher", "solver"⟩ ∧ Store.twoTools.HasTool "mesher" ∧
      mesh ∈ graph.inputsOf solver ∧ graph.IsLookedUp solver ∧ Store.twoTools.HasTool "solver" := by
  obtain ⟨compilation, compiled⟩ := compile_twoTools
  obtain ⟨graph, built, resolves⟩ := resolves_of_compile compiled
  have laid := Graph.nodes_of_build built
  have mesh : Description.twoTools.nodeAt 0 [0, 1] ∈ graph.nodes :=
    laid ▸ List.mem_map_of_mem (by decide)
  have solver : Description.twoTools.nodeAt 0 [0] ∈ graph.nodes :=
    laid ▸ List.mem_map_of_mem (by decide)
  have used : Description.twoTools.nodeAt 0 [0, 1] ∈
      graph.inputsOf (Description.twoTools.nodeAt 0 [0]) := by
    rw [Graph.inputsOf_nodeAt laid (by decide)]
    exact List.mem_map_of_mem (by decide)
  have lookedUp : graph.IsLookedUp (Description.twoTools.nodeAt 0 [0]) := by
    refine .inl ?_
    rw [Graph.steps_eq laid]
    exact List.mem_map_of_mem (by decide)
  exact ⟨graph, _, _, resolves, mesh, rfl, resolves.producer _ mesh (by decide) (by decide), used,
    lookedUp, resolves.consumer _ _ solver used lookedUp⟩

/-- The dataset that annotates a result names the result as its consumer, and nothing is known of
the result. -/
theorem exists_unresolved :
    ∃ compilation graph node, compile .annotatedResult {} .annotatedResult = .ok compilation ∧
      Graph.build .annotatedResult ({} : Settings).maxDepth = .ok graph ∧ node ∈ graph.nodes ∧
      node.kind.input = "result" ∧ ¬Store.annotatedResult.HasTool node.kind.input := by
  refine ⟨_, _, Description.annotatedResult.nodeAt 0 [1], rfl, rfl, by decide, rfl, ?_⟩
  rintro ⟨_, found⟩
  cases found

end Compilation

end WorkflowChain
