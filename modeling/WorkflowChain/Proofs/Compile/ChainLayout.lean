import WorkflowChain.Proofs.Compile.Parts
import WorkflowChain.Proofs.Workflow.Layout

/-! # The layout of a chain

A compilation is laid out as its description says, without the graph between them: the productions
of the tree, in post-order, have their fragments and their pairs of steps at the same places, and
the final fragment with its step comes last.
-/

namespace WorkflowChain

/-- The names of the results that are taken from a pipeline for the description at a position: one
for each child that it consumes. -/
def Description.resultNames (root : Description) (position : Position) : List String :=
  (root.consumedAt position).map fun child =>
    "datanode_" ++ toString (root.number child) ++ "_input"

theorem Node.slot_input (node : Node) :
    node.slot .input = "datanode_" ++ toString node.id ++ "_input" :=
  String.append_assoc

/-- What there is to know for the workflow with two tools. -/
def Store.twoTools : Store where
  entries :=
    [("geometry", .dataset [⟨"dataresource", [("downloadUrl", .text "part.stl")]⟩]),
      ("mesher", .tool
        { input := [("geometry", [⟨"function", [("location", .text "part.stl")]⟩])]
          output := [("mesh", [⟨"dataresource", [("downloadUrl", .text "part.msh")]⟩])]
          command := some "mesh part.stl -o part.msh"
          executor := some "engine.shell" }),
      ("mesh", .tool { datanodeType := some "engine.file" }),
      ("solver", .tool
        { input :=
            [("geometry", [⟨"function", [("location", .text "part.stl")]⟩]),
              ("mesh", [⟨"function", [("location", .text "part.msh")]⟩])]
          output := [("field", [⟨"dataresource", [("downloadUrl", .text "field.vtk")]⟩])]
          command := some "solve part.stl part.msh"
          executor := some "engine.shell" })]

namespace Compilation

theorem compile_twoTools : ∃ compilation, compile .twoTools {} .twoTools = .ok compilation :=
  ⟨_, rfl⟩

/-- A pair of steps belongs to the description at a position: the pipeline step takes the results
for what the description consumes and copies each into the slot of the same name, and the tool
step is run by the engine workflow of the tool. -/
structure PairOf (pipeline : PipelineStep) (tool : ToolStep) (store : Store) (root : Description)
    (position : Position) : Prop where
  results : pipeline.inputs.fromContainer = root.resultNames position
  copies : pipeline.postprocess =
    (root.resultNames position).map fun name => (Slot.Write.result name).render
  executor : ∃ description identifier descriptor, root.at? position = some description ∧
    description.identifier = some identifier ∧ store.descriptor identifier = .ok descriptor ∧
    descriptor.executor = some tool.workflow

/-- A compilation is laid out as the productions of a tree say. -/
structure LaidOut (compilation : Compilation) (store : Store) (settings : Settings)
    (root : Description) : Prop where
  /-- Without productions there is nothing. -/
  nothing : root.productions = [] → compilation.chain.steps = [] ∧ compilation.fragments = []
  /-- Else the chain has two steps for each production and a last one, and there is one fragment for
  each production and a last one. -/
  counts : root.productions ≠ [] →
    compilation.chain.steps.length = 2 * root.productions.length + 1 ∧
      compilation.fragments.length = root.productions.length + 1
  /-- Every other step, from the first to the last, runs the fragment at its place. -/
  fragment : root.productions ≠ [] → ∀ place ≤ root.productions.length,
    ∃ pipeline fragment, compilation.chain.steps[2 * place]? = some (.pipeline pipeline) ∧
      compilation.fragments[place]? = some fragment ∧
      pipeline.inputs.pipeline.reference = "file:__DIR__/" ++ fragment.fileName ∧
      fragment.fileName =
        if place < root.productions.length then
          settings.fragmentStem ++ "_" ++ toString place ++ ".yaml"
        else settings.finalFragmentName
  /-- After all but the last of them there is a tool step, and both are those of the production at
  the same place. -/
  pair : ∀ place position, root.productions[place]? = some position →
    ∃ pipeline tool, compilation.chain.steps[2 * place]? = some (.pipeline pipeline) ∧
      compilation.chain.steps[2 * place + 1]? = some (.tool tool) ∧
      PairOf pipeline tool store root position

theorem slots_nodeAt (root : Description) (position : Position) :
    ((root.consumedAt position).map (root.nodeAt 0)).map (Node.slot · .input) =
      root.resultNames position := by
  rw [List.map_map, Description.resultNames]
  apply List.map_congr_left
  intro child _
  rw [Function.comp_apply, Node.slot_input, Description.nodeAt, Nat.zero_add]

section Follows

variable {store : Store} {settings : Settings} {graph : Graph} {root : Description}
  {compilation : Compilation} (laid : graph.nodes = root.positions.map (root.nodeAt 0))

include laid

/-- The pair of steps of a production. -/
theorem HasStep.pairOf {place : Nat} {position : Position} {assembly : Assembly}
    {descriptor : Descriptor} {tool : ToolStep} {description : Description}
    (found : root.at? position = some description)
    (named : description.identifier = some description.name)
    (step : compilation.HasStep store settings graph place (root.nodeAt 0 position) assembly
      descriptor tool) :
    PairOf (pipelineStep settings (settings.fragmentName place)
      (graph.inputsOf (root.nodeAt 0 position)) false) tool store root position := by
  have member := Description.mem_positions.mpr ⟨_, found⟩
  have slots : (graph.inputsOf (root.nodeAt 0 position)).map (Node.slot · .input) =
      root.resultNames position := by
    rw [Graph.inputsOf_nodeAt laid member, slots_nodeAt]
  constructor
  · exact slots
  · rw [← slots]
    rfl
  · have described := step.described
    rw [Description.nodeAt, Description.descriptionAt_eq found] at described
    exact ⟨description, description.name, descriptor, found, named, described, step.runs.executor⟩

/-- The steps of the chain that run fragments, with their fragments. -/
theorem Follows.fragment (follows : compilation.Follows store settings graph)
    (nonempty : root.productions ≠ []) {place : Nat} (bound : place ≤ root.productions.length) :
    ∃ pipeline fragment, compilation.chain.steps[2 * place]? = some (.pipeline pipeline) ∧
      compilation.fragments[place]? = some fragment ∧
      pipeline.inputs.pipeline.reference = "file:__DIR__/" ++ fragment.fileName ∧
      fragment.fileName =
        if place < root.productions.length then
          settings.fragmentStem ++ "_" ++ toString place ++ ".yaml"
        else settings.finalFragmentName := by
  rcases Nat.lt_or_eq_of_le bound with inside | rfl
  · have found := (Graph.getElem?_steps laid).mpr ⟨_, List.getElem?_eq_getElem inside, rfl⟩
    obtain ⟨_, _, _, step⟩ := follows.step place _ found
    exact ⟨_, _, step.pipeline, step.fragment, rfl, (if_pos inside).symm⟩
  · have last : graph.steps.getLast? =
        some (root.nodeAt 0 (root.productions.getLast nonempty)) := by
      rw [Graph.steps_eq laid, List.getLast?_map, List.getLast?_eq_some_getLast nonempty,
        Option.map_some]
    obtain ⟨_, final⟩ := follows.final _ last
    rw [← Graph.length_steps laid]
    exact ⟨_, _, final.pipeline, final.fragment, rfl, (if_neg (Nat.lt_irrefl _)).symm⟩

end Follows

/-- **The layout of a chain.** A compilation that succeeds is laid out as its description says. -/
theorem laidOut_of_compile {store : Store} {settings : Settings} {root : Description}
    {compilation : Compilation} (compiled : compile store settings root = .ok compilation) :
    compilation.LaidOut store settings root := by
  obtain ⟨graph, built, follows⟩ := compile_ok compiled
  have laid := Graph.nodes_of_build built
  have empty : graph.steps = [] ↔ root.productions = [] := by
    rw [Graph.steps_eq laid, List.map_eq_nil_iff]
  constructor
  case nothing => exact fun none => follows.nothing (empty.mpr none)
  case counts =>
    intro nonempty
    rw [← Graph.length_steps laid]
    exact follows.counts (mt empty.mp nonempty)
  case fragment =>
    intro nonempty place bound
    exact follows.fragment laid nonempty bound
  case pair =>
    intro place position found
    have member := root.productions_subset (List.mem_of_getElem? found)
    obtain ⟨description, reached⟩ := Description.mem_positions.mp member
    have known := (Graph.getElem?_steps laid).mpr ⟨position, found, rfl⟩
    obtain ⟨_, _, tool, step⟩ := follows.step place _ known
    have named := (Graph.named_of_build built reached).1
    exact ⟨_, tool, step.pipeline, step.tool, step.pairOf laid reached named⟩

/-- The chain of a workflow with two tools has five steps. -/
theorem laidOut_twoTools :
    ∃ compilation, compile .twoTools {} .twoTools = .ok compilation ∧
      compilation.chain.steps.length = 5 ∧ compilation.LaidOut .twoTools {} .twoTools := by
  obtain ⟨compilation, compiled⟩ := compile_twoTools
  have laidOut := laidOut_of_compile compiled
  exact ⟨compilation, compiled, (laidOut.counts (by decide)).1, laidOut⟩

end Compilation

end WorkflowChain
