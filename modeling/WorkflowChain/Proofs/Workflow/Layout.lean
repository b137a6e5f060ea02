import WorkflowChain.Proofs.Workflow.Branch

/-! # The layout of a graph

A graph that is built depicts its description: it has one node for every description, in
post-order, and each node refers to others as the tree says. What later passes use of this is that
the nodes are those of the positions of the description, and that the steps are those of its
productions.
-/

namespace WorkflowChain

/-- A node stands for the description at a position of a tree. -/
structure Node.Depicts (node : Node) (root : Description) (position : Position)
    (description : Description) : Prop where
  id : node.id = root.number position
  identifier : description.identifier = some node.identifier
  filled : node.identifier ≠ ""
  depth : node.depth = description.depth
  /-- The artifact is a dataset, or else produced by the last production, if there is one. -/
  producer : node.kind.output = description.producer
  /-- The node consumes the children that are no productions, in order. -/
  inputs : node.inputs = (root.consumedAt position).map root.number
  /-- The root neither produces anything nor is it consumed. -/
  top : position = [] → node.outputs = [] ∧ node.kind.input = ""
  /-- A production produces the description above it and is not consumed. -/
  production : ∀ above index, position = above ++ [index] → description.isProduction = true →
    node.outputs = [root.number above] ∧ node.kind.input = ""
  /-- Everything else produces nothing and is consumed by the description above it. -/
  consumption : ∀ above index parent, position = above ++ [index] →
    root.at? above = some parent → description.isProduction = false →
    node.outputs = [] ∧ parent.identifier = some node.kind.input

/-- A graph stands for a tree of descriptions. -/
structure Graph.Depicts (graph : Graph) (root : Description) : Prop where
  /-- There are as many nodes as descriptions. -/
  count : graph.nodes.length = root.size
  /-- A node has the number of its place. -/
  numbered : ∀ id node, graph.node? id = some node → node.id = id
  /-- Each number belongs to exactly one description. -/
  described : ∀ id < graph.nodes.length, ∃! position, position ∈ root.positions ∧
    root.number position = id
  /-- Each description has its node under its number. -/
  node : ∀ position description, root.at? position = some description →
    ∃ node, graph.node? (root.number position) = some node ∧
      node.Depicts root position description
  /-- A description comes after those below it. -/
  below : ∀ position index, position ++ [index] ∈ root.positions →
    root.number (position ++ [index]) < root.number position
  /-- Everything at and below a child comes before everything at and below a later one. -/
  siblings : ∀ position earlier later left right, earlier < later →
    position ++ earlier :: left ∈ root.positions → position ++ later :: right ∈ root.positions →
    root.number (position ++ earlier :: left) < root.number (position ++ later :: right)
  /-- The numbers at and below a description are as many as its tree has descriptions, without gaps,
  and end with its own. -/
  block : ∀ position description, root.at? position = some description →
    ∀ other ∈ root.positions, position <+: other ↔
      root.number position < root.number other + description.size ∧
        root.number other ≤ root.number position
  /-- The root of the tree is the root of the graph and its last node. -/
  last : graph.root = root.number [] ∧ graph.root + 1 = graph.nodes.length

/-- A workflow whose last tool consumes a dataset and an artifact that another tool produces from
the same dataset. -/
def Description.twoTools : Description :=
  let mesh := (branch "mesh").producedBy ((branch "mesher").consuming (leaf "geometry"))
  (branch "field").producedBy (((branch "solver").consuming (leaf "geometry")).consuming mesh)

namespace Graph

theorem mem_nodes_of_mem_inputsOf {graph : Graph} {node input : Node}
    (member : input ∈ graph.inputsOf node) : input ∈ graph.nodes := by
  obtain ⟨id, _, found⟩ := List.mem_filterMap.mp member
  exact List.mem_of_getElem? found

theorem mem_nodes_of_mem_outputsOf {graph : Graph} {node output : Node}
    (member : output ∈ graph.outputsOf node) : output ∈ graph.nodes := by
  obtain ⟨id, _, found⟩ := List.mem_filterMap.mp member
  exact List.mem_of_getElem? found

/-! ## What is known of a graph that is built -/

section Built

variable {graph : Graph} {root : Description} {limit : Nat}

/-- A graph that is built has the nodes of a branch, with its top as the root. -/
theorem build_ok (built : build root limit = .ok graph) :
    ∃ branch, Branch.build limit 0 0 root = .ok branch ∧ graph = ⟨branch.nodes, branch.top.id⟩ := by
  obtain ⟨branch, own, built⟩ := bind_ok.mp built
  dsimp only at built
  split at built
  · cases built
    exact ⟨branch, own, rfl⟩
  · cases built

/-- **The nodes of a graph** are those of the positions of its description. -/
theorem nodes_of_build (built : build root limit = .ok graph) :
    graph.nodes = root.positions.map (root.nodeAt 0) := by
  obtain ⟨branch, own, rfl⟩ := build_ok built
  exact Branch.build_nodes own

/-- The root of a graph is the node of the root of the tree. -/
theorem root_of_build (built : build root limit = .ok graph) : graph.root = root.number [] := by
  obtain ⟨branch, own, rfl⟩ := build_ok built
  have top := (Branch.parts_of_nodes (Branch.build_nodes own)).2
  change branch.top.id = _
  rw [top]
  exact Nat.zero_add _

/-- In a tree of which a graph is built every description has a name. -/
theorem named_of_build (built : build root limit = .ok graph) {description : Description}
    {position : Position} (found : root.at? position = some description) :
    description.identifier = some description.name ∧ description.name ≠ "" := by
  obtain ⟨branch, own, _⟩ := build_ok built
  exact Branch.named_of_build own found

end Built

/-! ## Nodes by their numbers -/

section Laid

variable {graph : Graph} {root : Description}
  (laid : graph.nodes = root.positions.map (root.nodeAt 0))

include laid

/-- The node with the number of a position is that of the position. -/
theorem node?_number {position : Position} (member : position ∈ root.positions) :
    graph.node? (root.number position) = some (root.nodeAt 0 position) := by
  rw [node?, laid, List.getElem?_map, Description.getElem?_number member, Option.map_some]

/-- Nodes are told apart by their numbers. -/
theorem eq_of_id_eq {node other : Node} (member : node ∈ graph.nodes)
    (listed : other ∈ graph.nodes) (same : node.id = other.id) : node = other := by
  rw [laid] at member listed
  obtain ⟨position, known, rfl⟩ := List.mem_map.mp member
  obtain ⟨place, _, rfl⟩ := List.mem_map.mp listed
  have numbers : root.number position = root.number place := Nat.add_left_cancel same
  rw [(Description.number_inj known).mp numbers]

/-- The numbers of positions lead to their nodes. -/
theorem filterMap_node? {positions : List Position} (known : positions ⊆ root.positions) :
    (positions.map (0 + root.number ·)).filterMap graph.node? =
      positions.map (root.nodeAt 0) := by
  induction positions with
  | nil => rfl
  | cons position rest ih =>
    have ⟨here, later⟩ := List.cons_subset.mp known
    rw [List.map_cons, Nat.zero_add, List.filterMap_cons_some (node?_number laid here), ih later,
      List.map_cons]

theorem inputsOf_nodeAt {position : Position} (member : position ∈ root.positions) :
    graph.inputsOf (root.nodeAt 0 position) =
      (root.consumedAt position).map (root.nodeAt 0) :=
  filterMap_node? laid (Description.consumedAt_subset member)

/-- All numbers among the inputs of a node are numbers of nodes. -/
theorem map_id_inputsOf {position : Position} (member : position ∈ root.positions) :
    (graph.inputsOf (root.nodeAt 0 position)).map Node.id = (root.nodeAt 0 position).inputs := by
  rw [inputsOf_nodeAt laid member, List.map_map]
  rfl

theorem outputsOf_nodeAt {position : Position} (member : position ∈ root.positions) :
    graph.outputsOf (root.nodeAt 0 position) =
      (root.producedAt position).map (root.nodeAt 0) :=
  filterMap_node? laid (Description.producedAt_subset member)

/-- **The steps of a graph** are the nodes of the productions, in post-order. -/
theorem steps_eq : graph.steps = root.productions.map (root.nodeAt 0) := by
  rw [steps, laid, List.filter_map, Description.productions]
  congr 2
  funext position
  rw [Function.comp_apply, Node.isStep, Description.nodeAt, Description.producedAt]
  cases root.isProductionAt position <;> rfl

theorem length_steps : graph.steps.length = root.productions.length := by
  rw [steps_eq laid, List.length_map]

/-- The steps of a graph are the nodes of the productions, in the same order. -/
theorem getElem?_steps {place : Nat} {node : Node} :
    graph.steps[place]? = some node ↔
      ∃ position, root.productions[place]? = some position ∧ root.nodeAt 0 position = node := by
  rw [steps_eq laid, List.getElem?_map, Option.map_eq_some_iff]

/-- A step produces one artifact, that of the description above it. -/
theorem outputsOf_production {position : Position} (member : position ∈ root.productions) :
    graph.outputsOf (root.nodeAt 0 position) = [root.nodeAt 0 position.dropLast] := by
  rw [outputsOf_nodeAt laid (root.productions_subset member), Description.producedAt,
    if_pos (List.mem_filter.mp member).2, List.map_singleton]

/-- What the last step produces does not produce anything itself. -/
theorem outputs_of_mem_outputsOf_last {last output : Node}
    (known : graph.steps.getLast? = some last) (used : output ∈ graph.outputsOf last) :
    output.outputs = [] := by
  rw [steps_eq laid, List.getLast?_map, Option.map_eq_some_iff] at known
  obtain ⟨position, found, rfl⟩ := known
  rw [outputsOf_production laid (List.mem_of_getLast? found), List.mem_singleton] at used
  rw [used, Description.nodeAt, Description.producedAt_dropLast found, List.map_nil]

end Laid

/-- What a node consumes has that node as its consumer, and produces nothing itself. -/
theorem consumer_of_mem_inputsOf {graph : Graph} {root : Description} {limit : Nat}
    (built : build root limit = .ok graph) {node input : Node} (listed : node ∈ graph.nodes)
    (used : input ∈ graph.inputsOf node) :
    input.kind.input = node.identifier ∧ node.identifier ≠ "" ∧ input.outputs = [] := by
  have laid := nodes_of_build built
  rw [laid] at listed
  obtain ⟨position, known, rfl⟩ := List.mem_map.mp listed
  rw [inputsOf_nodeAt laid known] at used
  obtain ⟨below, consumed, rfl⟩ := List.mem_map.mp used
  obtain ⟨index, child, chosen, consumes, rfl⟩ := Description.mem_consumedAt.mp consumed
  have reached := Description.at?_descriptionAt known
  have found : root.at? (position ++ [index]) = some child := by
    rw [Description.at?_child reached, chosen]
  refine ⟨?_, (named_of_build built reached).2, ?_⟩
  · simp only [Description.nodeAt, Description.consumerAt_child found, consumes]
    rfl
  · simp only [Description.nodeAt, Description.producedAt_child found, consumes]
    rfl

/-! ## The graph depicts its description -/

/-- Each node of a graph depicts the description at its position. -/
theorem nodeAt_depicts {graph : Graph} {root description : Description} {limit : Nat}
    {position : Position} (built : build root limit = .ok graph)
    (found : root.at? position = some description) :
    (root.nodeAt 0 position).Depicts root position description := by
  have self := Description.descriptionAt_eq found
  obtain ⟨identified, filled⟩ := named_of_build built found
  have unshifted : (fun other => 0 + root.number other) = root.number :=
    funext fun other => Nat.zero_add _
  constructor
  · exact Nat.zero_add _
  · rw [identified, Description.nodeAt, self]
  · rwa [Description.nodeAt, self]
  · rw [Description.nodeAt, self]
  · rw [Description.nodeAt, self]
  · rw [Description.nodeAt, unshifted]
  · rintro rfl
    exact ⟨rfl, rfl⟩
  · rintro above index rfl produces
    simp only [Description.nodeAt, Description.producedAt_child found,
      Description.consumerAt_child found, produces, unshifted]
    exact ⟨rfl, rfl⟩
  · rintro above index parent rfl reached produces
    obtain ⟨parentNamed, _⟩ := named_of_build built reached
    simp only [Description.nodeAt, Description.producedAt_child found,
      Description.consumerAt_child found, produces, Description.descriptionAt_eq reached,
      parentNamed]
    exact ⟨rfl, rfl⟩

/-- **A graph that is built depicts its description.** On the way nothing is consumed before the
description above it consumes it: the top node of a branch has no consumer when it is built. -/
theorem build_depicts {graph : Graph} {root : Description} {limit : Nat}
    (built : build root limit = .ok graph) :
    graph.Depicts root ∧
      ∀ level next description branch, Branch.build limit level next description = .ok branch →
        branch.top.kind.input = "" := by
  have laid := nodes_of_build built
  have count : graph.nodes.length = root.size := by
    rw [laid, List.length_map, Description.size]
  refine ⟨?_, fun _ _ _ _ own => Branch.unconsumed_of_build own⟩
  constructor
  case count => exact count
  case numbered =>
    intro id node found
    rw [node?, laid, List.getElem?_map] at found
    obtain ⟨position, listed, rfl⟩ := Option.map_eq_some_iff.mp found
    rw [Description.nodeAt, Description.number_of_getElem? listed, Nat.zero_add]
  case described =>
    intro id bound
    rw [count] at bound
    have member : root.positions[id] ∈ root.positions := List.getElem_mem bound
    have numbered := Description.number_of_getElem? (List.getElem?_eq_getElem bound)
    refine ⟨root.positions[id], ⟨member, numbered⟩, ?_⟩
    rintro other ⟨listed, same⟩
    rw [← Description.number_inj listed, same, numbered]
  case node =>
    intro position description found
    have member := Description.mem_positions.mpr ⟨_, found⟩
    exact ⟨_, node?_number laid member, nodeAt_depicts built found⟩
  case below =>
    intro position index member
    obtain ⟨_, found⟩ := Description.mem_positions.mp member
    exact Description.number_child_lt found
  case siblings =>
    intro position earlier later left right before first second
    exact Description.number_sibling_lt before first second
  case block =>
    intro position description found other member
    exact Description.prefix_iff_number found member
  case last =>
    refine ⟨root_of_build built, ?_⟩
    rw [root_of_build built, count, Description.number_nil, Description.size_eq]

/-- The graph of a workflow with two tools; its deepest description is at level four. -/
theorem build_depicts_twoTools :
    ∃ graph, build .twoTools 4 = .ok graph ∧ graph.nodes.length = 6 ∧ graph.Depicts .twoTools := by
  obtain ⟨graph, built⟩ : ∃ graph, build .twoTools 4 = .ok graph := ⟨_, rfl⟩
  have depicts := (build_depicts built).1
  exact ⟨graph, built, depicts.count, depicts⟩

end Graph

end WorkflowChain
