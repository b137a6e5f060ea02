import WorkflowChain.Proofs.Compile.ChainLayout
import WorkflowChain.Proofs.Compile.StageName
import WorkflowChain.Proofs.Execution.ChainForm

/-! # The documents of compiled chains

The slots that a compiled pipeline step sees begin like all slots of nodes, so none of them is called
like a field of the step, and the files of a compiled tool step have the keys of their places. So
every chain that was compiled can be decoded from its document, like every chain in which slots are
told apart from fields (`Chain.decode_document`).
-/

namespace WorkflowChain

/-- No slot is called like a field of a pipeline. -/
theorem Node.slot_notMem_fieldKeys (node : Node) (direction : Direction) :
    node.slot direction ∉ PipelineInputs.fieldKeys := by
  have first : ∀ key ∈ PipelineInputs.fieldKeys, key.toList.head? ≠ some 'd' := by decide
  intro field
  refine first _ field ?_
  rw [toList_slot]
  rfl

namespace Compilation

/-- The slots that a pipeline step sees are told apart from its fields. -/
theorem wellFormed_pipelineStep (settings : Settings) (fileName : String) (nodes : List Node)
    (isLast : Bool) : (pipelineStep settings fileName nodes isLast).inputs.WellFormed := by
  constructor
  case distinct => exact Table.nodup_keys_ofEntries _
  case free =>
    intro slot seen
    obtain ⟨_, entry, rfl⟩ := List.mem_map.mp ((Table.mem_keys_ofEntries _ _).mp seen)
    obtain ⟨_, listed, rfl⟩ := List.mem_map.mp entry
    obtain ⟨node, _, rfl⟩ := List.mem_map.mp listed
    exact node.slot_notMem_fieldKeys .output

theorem nodup_keys_fileTable (bindings : List FileBinding) : (fileTable bindings).keys.Nodup :=
  List.foldlRecOn (motive := fun files : Table FileBinding => files.keys.Nodup) bindings _
    List.nodup_nil fun _ distinct binding _ => Table.nodup_keys_put distinct _ binding

/-- Chains that were compiled can be decoded from their documents. -/
theorem wellFormed_of_compile {store : Store} {settings : Settings} {root : Description}
    {compilation : Compilation} (compiled : compile store settings root = .ok compilation) :
    compilation.chain.WellFormed := by
  obtain ⟨graph, _, follows⟩ := compile_ok compiled
  intro step listed
  obtain ⟨place, found⟩ := List.mem_iff_getElem?.mp listed
  rcases follows.cases_step found with
    ⟨_, _, _, _, tool, _, own, ⟨_, rfl⟩ | ⟨_, rfl⟩⟩ | ⟨_, _, _, _, _, rfl⟩
  · exact .pipeline (wellFormed_pipelineStep ..)
  · obtain ⟨bindings, _, files⟩ := own.runs.files
    rw [← fileTable_eq] at files
    exact .tool (files ▸ nodup_keys_fileTable bindings)
  · exact .pipeline (wellFormed_pipelineStep ..)

end Compilation

namespace Chain

/-- **Chains are decoded to what was written.** If no slot is called like a field, then a chain is
decoded from its document to the same steps, each of its own kind and with files of their own kinds,
but for the order of files and slots. All chains that were compiled are such. -/
theorem decode_document :
    (∀ chain : Chain, chain.WellFormed → ∃ back,
      decode (Datum.ofValue chain.encode.inKeyOrder) = .ok back ∧ back.Reorders chain) ∧
    ∀ store settings root compilation, compile store settings root = .ok compilation →
      compilation.chain.WellFormed :=
  ⟨fun _ wellFormed => ⟨_, decode_inKeyOrder_encode wellFormed, wellFormed.reorders⟩,
    fun _ _ _ _ => Compilation.wellFormed_of_compile⟩

/-- A chain with a pipeline whose slots are called like the inputs of a tool, and with a tool whose
files are of both kinds. -/
def lookalike : Chain where
  steps := [
    .pipeline
      { workflow := "engine.pipeline"
        inputs :=
          { pipeline := .sibling "pipeline_0.yaml", runPipeline := "pipe", fromContainer := []
            toContainer := ["outputs"]
            context := [("outputs", "mesh"), ("command", "mesh part.stl"), ("arguments", "-o"),
              ("files", "part.stl")] }
        postprocess := [] },
    .tool
      { workflow := "engine.shell"
        inputs :=
          { command := "mesh", arguments := ["part.stl", ""]
            files := [("in_file_1", .template "mesh.ini" "file:/etc/mesh.ini"),
              ("in_file_0", .node "part.stl" "geometry")]
            outputs := [] }
        postprocess := [] }]

theorem wellFormed_lookalike : lookalike.WellFormed :=
  List.forall_mem_cons.mpr ⟨.pipeline ⟨by decide, by decide⟩,
    List.forall_mem_singleton.mpr (.tool (by decide))⟩

/-- Neither the slots nor the files are mistaken, and the chain of the workflow with two tools is
decoded from its document, too. -/
theorem decode_document_lookalike :
    (∃ back, decode (Datum.ofValue lookalike.encode.inKeyOrder) = .ok back ∧
      back.Reorders lookalike) ∧
    ∃ compilation back, compile .twoTools {} .twoTools = .ok compilation ∧
      decode (Datum.ofValue compilation.chain.encode.inKeyOrder) = .ok back ∧
      back.Reorders compilation.chain := by
  obtain ⟨decoded, compiled⟩ := decode_document
  obtain ⟨compilation, made⟩ := Compilation.compile_twoTools
  obtain ⟨back, read, same⟩ := decoded _ (compiled _ _ _ _ made)
  exact ⟨decoded _ wellFormed_lookalike, compilation, back, made, read, same⟩

end Chain

end WorkflowChain
