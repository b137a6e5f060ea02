import WorkflowChain.Proofs.Compile.ChainLayout
import WorkflowChain.Proofs.Workflow.SameWork

/-! # Compiling descriptions of the same work

No pass after the graph looks at the depth of a node: a graph is compiled as it is without the
depths of its nodes (`Compilation.ofGraph_withoutDepths`). As descriptions of the same work have the
same graph up to depths, they have the same compilation, or fail for the same reason.
-/

namespace WorkflowChain

/-- Failures are equal, but for the depth that is told of a missing identifier. -/
inductive Failure.SameUpToDepth : Failure → Failure → Prop where
  | refl (failure : Failure) : SameUpToDepth failure failure
  | graph {error other : GraphError} (same : error.SameUpToDepth other) :
      SameUpToDepth (.graph error) (.graph other)

/-! ## Graphs without depths -/

namespace Graph

variable (graph : Graph)

theorem filterMap_withoutDepths (ids : List Nat) :
    ids.filterMap graph.withoutDepths.node? =
      (ids.filterMap graph.node?).map Node.withoutDepth := by
  rw [List.map_filterMap]
  congr 1
  funext id
  exact List.getElem?_map

theorem inputsOf_withoutDepths (node : Node) :
    graph.withoutDepths.inputsOf node.withoutDepth =
      (graph.inputsOf node).map Node.withoutDepth :=
  filterMap_withoutDepths graph node.inputs

theorem outputsOf_withoutDepths (node : Node) :
    graph.withoutDepths.outputsOf node.withoutDepth =
      (graph.outputsOf node).map Node.withoutDepth :=
  filterMap_withoutDepths graph node.outputs

theorem steps_withoutDepths :
    graph.withoutDepths.steps = graph.steps.map Node.withoutDepth := by
  rw [steps, steps, withoutDepths, List.filter_map]
  rfl

end Graph

/-! ## Passes over nodes without depths -/

/-- Fragments are assembled without looking at depths. -/
theorem Assembly.ofNodes_withoutDepths (store : Store) (nodes : List Node) (isFinal : Bool)
    (target : Option Target) :
    ofNodes store (nodes.map Node.withoutDepth) isFinal target =
      ofNodes store nodes isFinal target := by
  rw [ofNodes_eq, ofNodes_eq, List.mapM_map, List.flatMap_map]
  rfl

namespace Compilation

variable (store : Store) (settings : Settings) (graph : Graph)

theorem pipelineStep_withoutDepths (fileName : String) (nodes : List Node) (isLast : Bool) :
    pipelineStep settings fileName (nodes.map Node.withoutDepth) isLast =
      pipelineStep settings fileName nodes isLast := by
  simp only [pipelineStep, List.map_map, List.filter_map]
  rfl

theorem toolBindings_withoutDepths (tool : String) (descriptor : Descriptor)
    (inputs : List Node) :
    toolBindings tool descriptor (inputs.map Node.withoutDepth) =
      toolBindings tool descriptor inputs := by
  rw [toolBindings, toolBindings, List.mapM_map]
  rfl

theorem toolStep_withoutDepths (node : Node) (descriptor : Descriptor) :
    toolStep graph.withoutDepths node.withoutDepth descriptor =
      toolStep graph node descriptor := by
  rw [toolStep, toolStep, Graph.inputsOf_withoutDepths, Graph.outputsOf_withoutDepths,
    toolBindings_withoutDepths]
  simp only [List.zipWith_map_right]
  rfl

/-- What a workflow step contributes does not depend on depths. -/
theorem stepPart_withoutDepths (place : Nat) (node : Node) :
    stepPart store settings graph.withoutDepths place node.withoutDepth =
      stepPart store settings graph place node := by
  rw [stepPart, stepPart, Graph.inputsOf_withoutDepths, Assembly.ofNodes_withoutDepths]
  simp only [pipelineStep_withoutDepths, toolStep_withoutDepths]
  rfl

theorem stepParts_withoutDepths (place : Nat) (nodes : List Node) :
    stepParts store settings graph.withoutDepths place (nodes.map Node.withoutDepth) =
      stepParts store settings graph place nodes := by
  induction nodes generalizing place with
  | nil => rfl
  | cons node rest ih =>
    rw [List.map_cons, stepParts, stepParts, stepPart_withoutDepths, ih]

theorem finalPart_withoutDepths (last : Node) :
    finalPart store settings graph.withoutDepths last.withoutDepth =
      finalPart store settings graph last := by
  rw [finalPart, finalPart, Graph.outputsOf_withoutDepths, Assembly.ofNodes_withoutDepths]
  simp only [pipelineStep_withoutDepths]

/-- **Depths are not looked at.** -/
theorem ofGraph_withoutDepths :
    ofGraph store settings graph.withoutDepths = ofGraph store settings graph := by
  rw [ofGraph, ofGraph, Graph.steps_withoutDepths, stepParts_withoutDepths, List.getLast?_map]
  cases graph.steps.getLast? with
  | none => rfl
  | some last =>
    simp only [Option.map_some, finalPart_withoutDepths]

end Compilation

/-- **Depths and predicates make no difference.** Descriptions of the same work have the same graph
up to depths, and are compiled to the same fragments, chain and warnings, with any store and any
settings. -/
theorem compile_alike_of_sameWork {root other : Description} (same : root.SameWork other) :
    (∀ limit, RunsAlike GraphError.SameUpToDepth
      (fun graph partner => graph.withoutDepths = partner.withoutDepths)
      (Graph.build root limit) (Graph.build other limit)) ∧
    ∀ store settings, RunsAlike Failure.SameUpToDepth Eq (compile store settings root)
      (compile store settings other) := by
  refine ⟨Graph.build_alike same, ?_⟩
  intro store settings
  rw [Compilation.compile_eq, Compilation.compile_eq]
  refine (RunsAlike.refl .refl _).bind_eq fun _ => ?_
  have graphs := Graph.build_alike same settings.maxDepth
  generalize Graph.build root settings.maxDepth = first at graphs ⊢
  generalize Graph.build other settings.maxDepth = second at graphs ⊢
  cases graphs with
  | error related => exact .error (.graph related)
  | ok equal =>
    dsimp only
    rw [← Compilation.ofGraph_withoutDepths, equal, Compilation.ofGraph_withoutDepths]
    exact .refl .refl _

/-- The workflow with two tools, with depths, other predicates and a relation of the root. -/
def Description.twoToolsAnnotated : Description :=
  let mesh := ((branch "mesh").producedBy
    (((branch "mesher").consuming (leaf "geometry")).withDepth 2)).withDepth 1
  let solver := ((branch "solver").withChild (leaf "geometry")).withChild
    (mesh.withRelation (.consumes "consumes"))
  ((branch "field").producedBy solver).withRelation .produces

/-- The annotations of the workflow with two tools make no difference. -/
theorem compile_alike_of_sameWork_twoTools :
    Description.twoTools.SameWork .twoToolsAnnotated ∧
      ∃ graph partner, Graph.build .twoTools 4 = .ok graph ∧
        Graph.build .twoToolsAnnotated 4 = .ok partner ∧ graph.nodes ≠ partner.nodes ∧
        graph.withoutDepths = partner.withoutDepths ∧
      ∃ compilation, compile .twoTools {} .twoTools = .ok compilation ∧
        compile .twoTools {} .twoToolsAnnotated = .ok compilation := by
  have same : Description.twoTools.SameWork .twoToolsAnnotated :=
    Description.sameWork_of_positions rfl (by decide)
  obtain ⟨compilation, compiled⟩ := Compilation.compile_twoTools
  have ⟨graphs, compilations⟩ := compile_alike_of_sameWork same
  refine ⟨same, _, _, rfl, rfl, by decide, ?_, compilation, compiled, ?_⟩
  · cases graphs 4 with
    | ok equal => exact equal
  · exact (compilations .twoTools {}).ok_iff.mp compiled

end WorkflowChain
