import WorkflowChain.Proofs.Alike
import WorkflowChain.Proofs.Compile.Assembly

/-! # Final outputs that are datasets

A final output that is a dataset has nothing to be exported. It is loaded as it is, with a warning,
and its consumer is not looked at. So the final fragment over datasets is the plain fragment over the
same datasets without consumers, or fails for the same reason
(`Assembly.ofNodes_final_alike_plain`).
-/

namespace WorkflowChain

/-- The node as it is before something consumes its artifact. -/
def Node.unconsumed (node : Node) : Node := { node with kind := { node.kind with input := "" } }

namespace Assembly

variable {store : Store} {node : Node} {nodes : List Node}

theorem nodeStages_final_eq_unconsumed (dataset : node.isDataset = true)
    (target : Option Target) :
    nodeStages store true target node = nodeStages store false target node.unconsumed := by
  have same : node.unconsumed.isDataset = true := dataset
  -- Nothing is done for a consumer, be it left aside or absent.
  have sinks : sinkStages store true node = sinkStages store false node.unconsumed := rfl
  rw [nodeStages, nodeStages, sourceStages_of_dataset dataset, sourceStages_of_dataset same, sinks]
  rfl

theorem nodeWarnings_of_dataset (dataset : node.isDataset = true) :
    nodeWarnings true node = [.finalDataset node.identifier] :=
  if_pos dataset

/-- **Final datasets are loaded as they are.** The final fragment over datasets is the plain
fragment over them without their consumers, with the same reason if there is none. Each dataset is
warned about once, in order, and only in the final fragment. -/
theorem ofNodes_final_alike_plain (datasets : ∀ node ∈ nodes, node.isDataset = true)
    (store : Store) (target : Option Target) :
    RunsAlike Eq
      (fun final plain => final.fragment = plain.fragment ∧
        final.warnings = nodes.map (fun node => .finalDataset node.identifier) ∧
        plain.warnings = [])
      (ofNodes store nodes true target)
      (ofNodes store (nodes.map Node.unconsumed) false target) := by
  have stages : RunsAlike Eq Eq (nodes.mapM (nodeStages store true target))
      ((nodes.map Node.unconsumed).mapM (nodeStages store false target)) := by
    rw [List.mapM_map]
    refine .mapM_eq fun node listed => ?_
    rw [nodeStages_final_eq_unconsumed (datasets node listed)]
    exact .refl (fun _ => rfl) _
  have warned : nodes.flatMap (nodeWarnings true) =
      nodes.map fun node => .finalDataset node.identifier := by
    rw [List.map_eq_flatMap]
    exact List.flatMap_congr fun node listed => nodeWarnings_of_dataset (datasets node listed)
  have silent : (nodes.map Node.unconsumed).flatMap (nodeWarnings false) = [] :=
    List.flatMap_eq_nil_iff.mpr fun _ _ => rfl
  rw [ofNodes_eq, ofNodes_eq, warned, silent]
  refine (RunsAlike.refl (fun _ => rfl) _).bind_eq fun _ => stages.bind_eq fun each => ?_
  exact (RunsAlike.refl (fun _ => rfl) _).bind_eq fun _ => .ok ⟨rfl, rfl, rfl⟩

/-- A dataset that is loaded and one that is converted in addition, each with a consumer. -/
def consumedDatasets : List Node :=
  [⟨0, "geometry", 2, { output := datasetKind, input := "mesher" }, [], []⟩,
    ⟨3, "loads", 2, { output := datasetKind, input := "solver" }, [], []⟩]

/-- The store for both datasets; nothing is known of their consumers. -/
def datasetStore : Store where
  entries :=
    [("geometry", .dataset [⟨"dataresource", [("downloadUrl", .text "part.stl")]⟩]),
      ("loads", .dataset [⟨"dataresource", [("downloadUrl", .text "loads.csv")]⟩,
        ⟨"mapping", [("functionType", .text "units/newton")]⟩])]

/-- The conversion asks for a wrap stage, which both fragments have. -/
theorem ofNodes_final_alike_plain_converted :
    ∃ final plain, ofNodes datasetStore consumedDatasets true (some ⟨"fuseki", none⟩) = .ok final ∧
      ofNodes datasetStore (consumedDatasets.map Node.unconsumed) false
        (some ⟨"fuseki", none⟩) = .ok plain ∧
      plain.fragment.pipe =
        "datanode2cuds | datanode_0_output | datanode_3_output_0 | datanode_3_output" ∧
      final.fragment = plain.fragment ∧
      final.warnings = [.finalDataset "geometry", .finalDataset "loads"] ∧ plain.warnings = [] := by
  have datasets : ∀ node ∈ consumedDatasets, node.isDataset = true := by decide
  have alike := ofNodes_final_alike_plain datasets datasetStore (some ⟨"fuseki", none⟩)
  obtain ⟨plain, assembled, piped⟩ : ∃ plain, ofNodes datasetStore
      (consumedDatasets.map Node.unconsumed) false (some ⟨"fuseki", none⟩) = .ok plain ∧
      plain.fragment.pipe =
        "datanode2cuds | datanode_0_output | datanode_3_output_0 | datanode_3_output" :=
    ⟨_, rfl, rfl⟩
  rw [assembled] at alike
  generalize ofNodes datasetStore consumedDatasets true _ = run at alike
  cases alike with
  | ok related => exact ⟨_, plain, rfl, assembled, piped, related⟩

end Assembly

end WorkflowChain
