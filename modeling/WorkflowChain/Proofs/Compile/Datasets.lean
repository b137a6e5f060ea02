import WorkflowChain.Proofs.Compile.Assembly
import WorkflowChain.Proofs.Workflow.Layout

/-! # Which artifacts are datasets

A node is a dataset if the marker for datasets stands on the producer side of its artifact. The
marker is put there for a description without a list of children, and elsewhere the identifier of
the last producer is, which may be any text. So the datasets are the descriptions without a list of
children and those whose last producer is called like the marker (`Graph.isDataset_iff_of_build`).
Apart from the latter, an artifact with a producer is not loaded, but read as its producer documents
it.
-/

namespace WorkflowChain

/-- The last of the children that produce a description. -/
def Description.lastProducer? (description : Description) : Option Description :=
  (description.childList.filter isProduction).getLast?

/-- A description that has children is produced by the last of its producers, if there is one. -/
theorem Description.producer_eq {description : Description}
    (branching : description.children ≠ none) :
    description.producer = (description.lastProducer?.map name).getD "" := by
  obtain ⟨children, listed⟩ := Option.ne_none_iff_exists'.mp branching
  rw [producer, lastProducer?, childList, listed]
  rfl

theorem Description.name_eq_datasetKind_iff {description : Description} :
    description.name = datasetKind ↔ description.identifier = some datasetKind := by
  rw [name]
  cases description.identifier <;> simp [datasetKind]

theorem Description.producer_eq_datasetKind_iff {description : Description} :
    description.producer = datasetKind ↔
      description.children = none ∨
        ∃ tool, description.lastProducer? = some tool ∧ tool.identifier = some datasetKind := by
  by_cases leaf : description.children = none
  · rw [producer, leaf]
    exact iff_of_true rfl (.inl rfl)
  · rw [producer_eq leaf]
    cases description.lastProducer? with
    | none => simp [leaf, datasetKind]
    | some tool =>
      rw [Option.map_some, Option.getD_some, name_eq_datasetKind_iff]
      simp [leaf]

namespace Graph

variable {graph : Graph} {root description : Description} {limit : Nat} {position : Position}

/-- A producer that is not called like the marker stands at its artifact. -/
theorem producer_of_lastProducer? (built : build root limit = .ok graph)
    (found : root.at? position = some description) {tool : Description}
    (last : description.lastProducer? = some tool) :
    description.producer = tool.name ∧ tool.name ≠ "" := by
  have member := (List.mem_filter.mp (List.mem_of_getLast? last)).1
  obtain ⟨index, chosen⟩ := List.mem_iff_getElem?.mp member
  have below : root.at? (position ++ [index]) = some tool := by
    rw [Description.at?_child found, chosen]
  have branching : description.children ≠ none := by
    intro leaf
    rw [Description.childList, leaf] at member
    exact absurd member List.not_mem_nil
  refine ⟨?_, (named_of_build built below).2⟩
  rw [Description.producer_eq branching, last, Option.map_some, Option.getD_some]

/-- **Which nodes are datasets.** The node of a description is a dataset exactly if the description
has no list of children, or if its last producer is called like the marker for datasets. What has a
producer of another name is read with the templates that its producer has for it. -/
theorem isDataset_iff_of_build (built : build root limit = .ok graph) (position : Position)
    (description : Description) (found : root.at? position = some description) :
    ∃ node, graph.node? (root.number position) = some node ∧ node.identifier = description.name ∧
      (node.isDataset = true ↔ description.children = none ∨
        ∃ tool, description.lastProducer? = some tool ∧ tool.identifier = some datasetKind) ∧
      ∀ tool, description.lastProducer? = some tool → tool.identifier ≠ some datasetKind →
        node.isDataset = false ∧ ∀ store isFinal target stages,
          Assembly.sourceStages store isFinal target node = .ok stages →
            ∃ templates, store.toolTemplates tool.name .output node.identifier = .ok templates := by
  have laid := nodes_of_build built
  have member := Description.mem_positions.mpr ⟨_, found⟩
  have self := Description.descriptionAt_eq found
  have dataset : (root.nodeAt 0 position).isDataset = true ↔ description.children = none ∨
      ∃ tool, description.lastProducer? = some tool ∧ tool.identifier = some datasetKind := by
    rw [← Description.producer_eq_datasetKind_iff, Node.isDataset, decide_eq_true_iff,
      Description.nodeAt, self]
  refine ⟨_, node?_number laid member, ?_, dataset, ?_⟩
  · rw [Description.nodeAt, self]
  · intro tool last other
    obtain ⟨produces, named⟩ := producer_of_lastProducer? built found last
    have output : (root.nodeAt 0 position).kind.output = tool.name := by
      rw [Description.nodeAt, self, produces]
    have produced : (root.nodeAt 0 position).isDataset = false := by
      rw [← Bool.not_eq_true, Node.isDataset, decide_eq_true_iff, output,
        Description.name_eq_datasetKind_iff]
      exact other
    refine ⟨produced, fun store isFinal target stages loaded => ?_⟩
    rw [← output]
    exact Assembly.toolTemplates_of_sourceStages loaded produced (output ▸ named)

/-- In the workflow with two tools the geometry is a dataset, and the mesh has a producer of another
name. -/
theorem isDataset_iff_twoTools :
    ∃ graph geometry mesh, build .twoTools 4 = .ok graph ∧ graph.node? 0 = some geometry ∧
      geometry.isDataset = true ∧ graph.node? 3 = some mesh ∧ mesh.identifier = "mesh" ∧
      mesh.isDataset = false := by
  obtain ⟨graph, built⟩ : ∃ graph, build .twoTools 4 = .ok graph := ⟨_, rfl⟩
  obtain ⟨geometry, first, _, dataset, _⟩ := isDataset_iff_of_build built [0, 0] _ rfl
  obtain ⟨mesh, known, named, _, produced⟩ := isDataset_iff_of_build built [0, 1] _ rfl
  exact ⟨graph, geometry, mesh, built, first, dataset.mpr (.inl rfl), known, named,
    (produced _ rfl (by decide)).1⟩

end Graph

/-! ## A producer called like the marker -/

/-- A result that is produced by a tool called like the marker for datasets. -/
def Description.toolCalledDataset : Description :=
  (branch "result").producedBy ((branch datasetKind).consuming (leaf "raw"))

/-- The result has a list of children and is produced by a step, and is yet loaded as a dataset. -/
theorem Graph.exists_produced_dataset :
    ∃ graph node, build .toolCalledDataset 64 = .ok graph ∧
      Description.toolCalledDataset.children ≠ none ∧
      graph.steps.map (fun step => (step.identifier, step.outputs)) = [(datasetKind, [node.id])] ∧
      graph.node? graph.root = some node ∧ node.identifier = "result" ∧ node.isDataset = true ∧
      ∀ store isFinal target, Assembly.sourceStages store isFinal target node =
        store.datasetTemplates "result" >>= fun templates =>
          .ok (Assembly.templateStages node .output templates) :=
  ⟨_, _, rfl, nofun, rfl, rfl, rfl, rfl, fun _ _ _ => rfl⟩

end WorkflowChain
