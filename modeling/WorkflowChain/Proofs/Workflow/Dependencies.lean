import WorkflowChain.Proofs.Workflow.Faults
import WorkflowChain.Proofs.Workflow.Layout
import Mathlib.Data.List.Induction
import Mathlib.Logic.Relation

/-! # Dependencies form a tree

Every description but the root gives rise to one dependency, between its node and the node of the
description above it. A consumed description has it recorded among the inputs of the description
above, and a production among its own outputs, but both lead from below to above. The dependencies
of a graph are therefore those of its positions (`Graph.edges_perm`). They are a tree directed at
the root (`Graph.IsTree`), and all of them lead to greater numbers, so that no graph is refused for
their order (`Graph.isOrdered_of_nodes`). A graph in order has no cycle besides
(`Graph.acyclic_of_isOrdered`).
-/

namespace WorkflowChain

namespace Description

/-- The positions whose dependencies the node at a position records: those that it consumes, and its
own position if it is a production. -/
def recordedAt (root : Description) (position : Position) : List Position :=
  root.consumedAt position ++ if root.isProductionAt position then [position] else []

/-- The dependency of a position: its number, and that of the position above it. -/
def dependency (root : Description) (position : Position) : Nat × Nat :=
  (root.number position, root.number position.dropLast)

variable {root : Description}

/-- A dependency is recorded at the position itself if it is a production, else above it. -/
theorem mem_recordedAt {holder position : Position} (member : holder ∈ root.positions) :
    position ∈ root.recordedAt holder ↔
      position ∈ root.positions ∧ position ≠ [] ∧
        holder = if root.isProductionAt position then position else position.dropLast := by
  rw [recordedAt, List.mem_append]
  constructor
  · rintro (consumed | produced)
    · have inside := consumedAt_subset member consumed
      obtain ⟨index, child, chosen, consumes, rfl⟩ := mem_consumedAt.mp consumed
      have found : root.at? (holder ++ [index]) = some child := by
        rw [at?_child (at?_descriptionAt member), chosen]
      rw [isProductionAt_child found, consumes, List.dropLast_concat]
      exact ⟨inside, by simp, rfl⟩
    · by_cases produces : root.isProductionAt holder = true
      · rw [if_pos produces, List.mem_singleton] at produced
        subst produced
        refine ⟨member, ?_, (if_pos produces).symm⟩
        rintro rfl
        simp [isProductionAt] at produces
      · rw [if_neg produces] at produced
        exact absurd produced List.not_mem_nil
  · rintro ⟨inside, below, held⟩
    by_cases produces : root.isProductionAt position = true
    · rw [if_pos produces] at held
      subst held
      rw [if_pos produces]
      exact .inr List.mem_cons_self
    · rw [if_neg produces] at held
      obtain ⟨above, index, rfl⟩ := (List.eq_nil_or_concat' position).resolve_left below
      rw [List.dropLast_concat] at held
      subst held
      obtain ⟨child, found⟩ := mem_positions.mp inside
      obtain ⟨parent, reached, chosen⟩ := exists_parent found
      rw [isProductionAt_child found, Bool.not_eq_true] at produces
      refine .inl (mem_consumedAt.mpr ⟨index, child, ?_, produces, rfl⟩)
      rwa [descriptionAt_eq reached]

/-- No node records a dependency twice. -/
theorem nodup_recordedAt (root : Description) (position : Position) :
    (root.recordedAt position).Nodup := by
  unfold recordedAt
  refine List.Nodup.append (root.nodup_consumedAt position) ?_ ?_
  · split
    · exact List.nodup_singleton _
    · exact List.nodup_nil
  · -- What is consumed at a position stands below it.
    intro other consumed own
    obtain ⟨index, _, _, _, rfl⟩ := mem_consumedAt.mp consumed
    split at own
    · simp at own
    · exact absurd own List.not_mem_nil

/-- All positions but the first are positions of children. -/
theorem filter_ne_nil (root : Description) :
    root.positions.filter (· ≠ []) = positionsFrom 0 root.childList := by
  have below : ∀ position ∈ positionsFrom 0 root.childList, decide (position ≠ []) = true := by
    intro position member
    obtain ⟨_, _, _, _, _, rfl⟩ := mem_positionsFrom.mp member
    rfl
  rw [positions_eq, List.filter_append, List.filter_eq_self.mpr below]
  exact List.append_nil _

/-- Every position but the root has its dependency recorded once. -/
theorem recorded_perm (root : Description) :
    (root.positions.flatMap root.recordedAt).Perm (root.positions.filter (· ≠ [])) := by
  rw [List.perm_ext_iff_of_nodup _ (root.nodup_positions.filter _)]
  · intro position
    rw [List.mem_flatMap, List.mem_filter, decide_eq_true_iff]
    constructor
    · rintro ⟨holder, member, recorded⟩
      obtain ⟨inside, below, _⟩ := (mem_recordedAt member).mp recorded
      exact ⟨inside, below⟩
    · rintro ⟨inside, below⟩
      have held : (if root.isProductionAt position then position else position.dropLast) ∈
          root.positions := by
        split
        · exact inside
        · exact dropLast_mem_positions inside
      exact ⟨_, held, (mem_recordedAt held).mpr ⟨inside, below, rfl⟩⟩
  · refine List.nodup_flatMap.mpr ⟨fun position _ => root.nodup_recordedAt position, ?_⟩
    refine root.nodup_positions.pairwise_of_forall_ne fun holder member other listed differ => ?_
    intro position recorded again
    have first := ((mem_recordedAt member).mp recorded).2.2
    have second := ((mem_recordedAt listed).mp again).2.2
    exact differ (first.trans second.symm)

end Description

namespace Graph

/-- A dependency leads from the node with the first number to the node with the second. -/
def Leads (graph : Graph) (first second : Nat) : Prop := (first, second) ∈ graph.edges

/-- The dependencies of a graph are the tree of its description, directed at the root. -/
structure IsTree (graph : Graph) (root : Description) : Prop where
  /-- There is one dependency less than there are nodes. -/
  count : graph.edges.length + 1 = graph.nodes.length
  /-- A node other than the root is that of a child. Its only dependency leads to the node of the
  description above it. -/
  parent : ∀ id < graph.nodes.length, id ≠ graph.root →
    ∃ above index, above ++ [index] ∈ root.positions ∧
      graph.node? id = some (root.nodeAt 0 (above ++ [index])) ∧
      graph.node? (root.number above) = some (root.nodeAt 0 above) ∧
      graph.edges.filter (·.1 = id) = [(id, root.number above)]
  /-- No dependency leads away from the root. -/
  top : graph.edges.filter (·.1 = graph.root) = []
  /-- Dependencies lead to greater numbers, which are numbers of nodes. -/
  forward : ∀ first second, graph.Leads first second →
    first < second ∧ second < graph.nodes.length
  /-- The root can be reached from every node. -/
  reaches : ∀ id < graph.nodes.length, Relation.ReflTransGen graph.Leads id graph.root
  /-- No node can be reached from itself. -/
  acyclic : ∀ id, ¬ Relation.TransGen graph.Leads id id
  /-- Nodes refer to nodes. -/
  inRange : ∀ node ∈ graph.nodes, ∀ id ∈ node.inputs ++ node.outputs, id < graph.nodes.length

/-! ## Order and cycles -/

/-- **A graph whose dependencies lead to greater numbers has no cycle.** A search for cycles would
refuse no graph that the check of the order accepts. -/
theorem acyclic_of_isOrdered {graph : Graph} (ordered : graph.isOrdered = true) (id : Nat) :
    ¬Relation.TransGen graph.Leads id id := by
  have forward : ∀ {first second : Nat}, graph.Leads first second → first < second :=
    fun leads => of_decide_eq_true (List.all_eq_true.mp ordered _ leads)
  have rises : ∀ {first second : Nat}, Relation.TransGen graph.Leads first second →
      first < second := by
    intro first second path
    induction path with
    | single leads => exact forward leads
    | tail _ leads before => exact Nat.lt_trans before (forward leads)
  exact fun path => Nat.lt_irrefl _ (rises path)

/-! ## The dependencies of the positions -/

section Laid

variable {graph : Graph} {root : Description}
  (laid : graph.nodes = root.positions.map (root.nodeAt 0))

include laid

/-- The dependencies of a graph are those of the positions that its nodes record. -/
theorem edges_eq :
    graph.edges = (root.positions.flatMap root.recordedAt).map root.dependency := by
  rw [edges, laid, List.flatMap_map, List.map_flatMap]
  refine List.flatMap_congr fun position member => ?_
  rw [Description.recordedAt, List.map_append]
  simp only [Description.nodeAt, Nat.zero_add, List.map_map]
  congr 1
  · -- The dependency of what is consumed leads to the position itself.
    refine List.map_congr_left fun below consumed => ?_
    obtain ⟨index, _, _, _, rfl⟩ := Description.mem_consumedAt.mp consumed
    simp [Description.dependency]
  · rw [Description.producedAt]
    split <;> rfl

/-- **One dependency for each description but the root.** -/
theorem edges_perm :
    graph.edges.Perm ((root.positions.filter (· ≠ [])).map root.dependency) :=
  edges_eq laid ▸ root.recorded_perm.map _

/-- Dependencies lead from the node of each position to the node above it. -/
theorem leads_iff {first second : Nat} :
    graph.Leads first second ↔
      ∃ position ∈ root.positions, position ≠ [] ∧ first = root.number position ∧
        second = root.number position.dropLast := by
  rw [Leads, (edges_perm laid).mem_iff, List.mem_map]
  simp only [List.mem_filter, decide_eq_true_eq, Description.dependency, Prod.mk.injEq, and_assoc,
    eq_comm (a := first), eq_comm (a := second)]

theorem length_nodes : graph.nodes.length = root.size := by
  rw [laid, List.length_map, Description.size]

theorem length_edges : graph.edges.length + 1 = graph.nodes.length := by
  rw [(edges_perm laid).length_eq, List.length_map, Description.filter_ne_nil,
    Description.length_positionsFrom, length_nodes laid, Description.size_eq]

/-- No dependency is recorded twice, neither by one node nor by two. -/
theorem nodup_edges : graph.edges.Nodup := by
  rw [(edges_perm laid).nodup_iff]
  refine List.Nodup.map_on ?_ (root.nodup_positions.filter _)
  intro position member other _ same
  exact (Description.number_inj (List.mem_of_mem_filter member)).mp (Prod.mk.inj same).1

/-- Dependencies lead to greater numbers, since parents come after their children. -/
theorem lt_of_leads {first second : Nat} (leads : graph.Leads first second) : first < second := by
  obtain ⟨position, member, below, rfl, rfl⟩ := (leads_iff laid).mp leads
  obtain ⟨above, index, rfl⟩ := (List.eq_nil_or_concat' position).resolve_left below
  obtain ⟨_, found⟩ := Description.mem_positions.mp member
  rw [List.dropLast_concat]
  exact Description.number_child_lt found

/-- **No graph is refused** because of the order of its nodes. -/
theorem isOrdered_of_nodes : graph.isOrdered = true := by
  rw [isOrdered, List.all_eq_true]
  exact fun edge member => decide_eq_true (lt_of_leads laid member)

/-- The dependency of a position is the only one that leads away from its node. -/
theorem filter_edges_eq {position : Position} (member : position ∈ root.positions)
    (below : position ≠ []) :
    graph.edges.filter (·.1 = root.number position) = [root.dependency position] := by
  rw [← List.perm_singleton, List.perm_ext_iff_of_nodup ((nodup_edges laid).filter _)
    (List.nodup_singleton _)]
  rintro ⟨first, second⟩
  rw [List.mem_filter, List.mem_singleton, decide_eq_true_iff]
  constructor
  · rintro ⟨leads, rfl⟩
    obtain ⟨other, _, _, same, rfl⟩ := (leads_iff laid).mp leads
    rw [(Description.number_inj member).mp same]
    rfl
  · intro own
    obtain ⟨rfl, rfl⟩ := Prod.mk.inj own
    exact ⟨(leads_iff laid).mpr ⟨position, member, below, rfl, rfl⟩, rfl⟩

/-- From each position the way up leads to the root. -/
theorem reflTransGen_leads {position : Position} (member : position ∈ root.positions) :
    Relation.ReflTransGen graph.Leads (root.number position) (root.number []) := by
  induction position using List.reverseRecOn with
  | nil => exact .refl
  | append_singleton above index ih =>
    have parent := Description.dropLast_mem_positions member
    have leads : graph.Leads (root.number (above ++ [index])) (root.number above) := by
      refine (leads_iff laid).mpr ⟨_, member, by simp, rfl, ?_⟩
      rw [List.dropLast_concat]
    rw [List.dropLast_concat] at parent
    exact .head leads (ih parent)

/-- A number below that of the root is the number of a child. -/
theorem exists_child_of_ne {id : Nat} (bound : id < graph.nodes.length)
    (other : id ≠ root.number []) :
    ∃ above index, above ++ [index] ∈ root.positions ∧ root.number (above ++ [index]) = id := by
  rw [length_nodes laid] at bound
  have member : root.positions[id] ∈ root.positions := List.getElem_mem bound
  have numbered := Description.number_of_getElem? (List.getElem?_eq_getElem bound)
  rcases List.eq_nil_or_concat' root.positions[id] with top | ⟨above, index, child⟩
  · rw [top] at numbered
    exact absurd numbered.symm other
  · rw [child] at member numbered
    exact ⟨above, index, member, numbered⟩

/-- Nodes refer to nodes of the graph only. -/
theorem lt_of_mem_references {node : Node} {id : Nat} (listed : node ∈ graph.nodes)
    (reference : id ∈ node.inputs ++ node.outputs) : id < graph.nodes.length := by
  rw [laid] at listed
  obtain ⟨position, member, rfl⟩ := List.mem_map.mp listed
  have known : ∃ other ∈ root.positions, root.number other = id := by
    rcases List.mem_append.mp reference with used | used
    · obtain ⟨other, consumed, rfl⟩ := List.mem_map.mp used
      exact ⟨other, Description.consumedAt_subset member consumed, (Nat.zero_add _).symm⟩
    · obtain ⟨other, produced, rfl⟩ := List.mem_map.mp used
      exact ⟨other, Description.producedAt_subset member produced, (Nat.zero_add _).symm⟩
  obtain ⟨other, inside, rfl⟩ := known
  rw [length_nodes laid]
  exact Description.number_lt inside

/-- Graphs whose nodes are those of the positions of a tree have its dependencies. -/
theorem isTree_of_nodes (last : graph.root = root.number []) : graph.IsTree root := by
  constructor
  case count => exact length_edges laid
  case parent =>
    intro id bound other
    obtain ⟨above, index, member, rfl⟩ := exists_child_of_ne laid bound (last ▸ other)
    have parent := Description.dropLast_mem_positions member
    have only := filter_edges_eq laid member (by simp)
    rw [List.dropLast_concat] at parent
    rw [Description.dependency, List.dropLast_concat] at only
    exact ⟨above, index, member, node?_number laid member, node?_number laid parent, only⟩
  case top =>
    rw [last, List.filter_eq_nil_iff]
    rintro ⟨first, second⟩ leads
    obtain ⟨position, member, below, rfl, _⟩ := (leads_iff laid).mp leads
    rw [decide_eq_true_iff, Description.number_inj member]
    exact below
  case forward =>
    intro first second leads
    refine ⟨lt_of_leads laid leads, ?_⟩
    obtain ⟨position, member, _, _, rfl⟩ := (leads_iff laid).mp leads
    rw [length_nodes laid]
    exact Description.number_lt (Description.dropLast_mem_positions member)
  case reaches =>
    intro id bound
    rw [length_nodes laid] at bound
    have numbered := Description.number_of_getElem? (List.getElem?_eq_getElem bound)
    rw [last, ← numbered]
    exact reflTransGen_leads laid (List.getElem_mem bound)
  case acyclic => exact acyclic_of_isOrdered (isOrdered_of_nodes laid)
  case inRange => exact fun node listed id => lt_of_mem_references laid listed

end Laid

/-! ## Graphs that are built -/

/-- The graph that is made of the branch of a whole description. -/
def ofBranch (branch : Branch) : Graph := ⟨branch.nodes, branch.top.id⟩

theorem isOrdered_ofBranch {root : Description} {limit : Nat} {branch : Branch}
    (built : Branch.build limit 0 0 root = .ok branch) : (ofBranch branch).isOrdered = true :=
  isOrdered_of_nodes (Branch.build_nodes built)

/-- The order of the nodes is no further reason to refuse a description. -/
theorem build_eq (root : Description) (limit : Nat) :
    build root limit = (Branch.build limit 0 0 root).map ofBranch := by
  unfold build
  cases built : Branch.build limit 0 0 root with
  | error reason => rfl
  | ok branch => exact if_pos (isOrdered_ofBranch built)

/-- A description is refused for its first fault. -/
theorem exists_firstFault {root : Description} {limit : Nat} {error : GraphError}
    (refused : build root limit = .error error) :
    ∃ position, root.FirstFault limit 0 position error := by
  have explained := Branch.explained_build root limit 0 0
  rw [build_eq] at refused
  cases own : Branch.build limit 0 0 root with
  | error reason =>
    rw [own] at refused explained
    cases refused
    exact explained.exists_firstFault
  | ok branch =>
    rw [own] at refused
    cases refused

/-- **Dependencies form a tree.** The graph of a description has its dependencies, whatever mix of
productions and consumptions it has. The nodes of every branch that is built are in order, so that no
description is refused for a cycle. -/
theorem isTree_of_build (root : Description) (limit : Nat) :
    (∀ graph, build root limit = .ok graph → graph.IsTree root) ∧
      (∀ branch, Branch.build limit 0 0 root = .ok branch →
        (ofBranch branch).isOrdered = true ∧ build root limit = .ok (ofBranch branch)) ∧
      build root limit ≠ .error .cyclic := by
  refine ⟨fun graph built => ?_, fun branch built => ?_, fun refused => ?_⟩
  · exact isTree_of_nodes (nodes_of_build built) (root_of_build built)
  · refine ⟨isOrdered_ofBranch built, ?_⟩
    rw [build_eq, built]
    rfl
  · obtain ⟨_, first⟩ := exists_firstFault refused
    obtain ⟨_, _, fault⟩ := first.fault
    exact Description.fault?_ne_cyclic fault

/-- Of the five dependencies of the workflow with two tools, two are recorded by productions. -/
theorem isTree_twoTools :
    ∃ graph, build .twoTools 4 = .ok graph ∧ graph.IsTree .twoTools ∧
      graph.edges = [(1, 2), (2, 3), (0, 4), (3, 4), (4, 5)] ∧
      Relation.ReflTransGen graph.Leads 1 5 := by
  obtain ⟨graph, built, edges, root, count⟩ : ∃ graph, build .twoTools 4 = .ok graph ∧
      graph.edges = [(1, 2), (2, 3), (0, 4), (3, 4), (4, 5)] ∧ graph.root = 5 ∧
      graph.nodes.length = 6 := ⟨_, rfl, rfl, rfl, rfl⟩
  have tree := (isTree_of_build .twoTools 4).1 graph built
  exact ⟨graph, built, tree, edges, root ▸ tree.reaches 1 (by omega)⟩

end Graph

end WorkflowChain
