import WorkflowChain.Proofs.Compile.InputFiles
import WorkflowChain.Proofs.Pipeline.RequiredAdapters
import Mathlib.Data.List.Find

/-! # Which results a fragment collects

A pipeline step takes one result for each input out of the container, whereas its fragment collects
one file for each location: sinks that declare the same location share a file, which has the name
of the first of them. A result is therefore collected unless an earlier sink declares its location.
-/

namespace WorkflowChain

/-- The labels of the files that a collection stage collects. -/
def Stage.collectedLabels (stage : Stage) : List String :=
  ((((stage.config.lookup "configuration").bind (Value.field? "from_cuds")).bind
    Value.items?).getD []).filterMap Value.text?

/-- The labels of the files that a fragment collects. -/
def Fragment.collected (fragment : Fragment) : List String :=
  ((fragment.stage? collectName).map Stage.collectedLabels).getD []

/-- The fragment of a pipeline step collects the files that the sinks declare. -/
structure CollectsFiles (pipeline : PipelineStep) (fragment : Fragment) (sinks : List Stage) :
    Prop where
  stages : sinks ⊆ fragment.stages
  /-- Every result that the step takes is that of a sink with a file. -/
  declared : ∀ name ∈ pipeline.inputs.fromContainer,
    ∃ sink ∈ sinks, sink.name = name ∧ ∃ location, sink.location? = some location
  /-- The file at a location is collected under the name of the first sink that declares it. -/
  collected : ∀ sink ∈ sinks, ∀ location, sink.location? = some location →
    ∃ first, sinks.find? (·.location? = some location) = some first ∧
      first.name ∈ fragment.collected
  /-- A result is collected under its own name exactly if no sink before it declares its location,
  or if that is the label of a file that a sink extracts itself. -/
  exact : ∀ sink ∈ sinks, sink.name ∈ pipeline.inputs.fromContainer →
    (sink.name ∈ fragment.collected ↔
      sinks.find? (·.location? = sink.location?) = some sink ∨
        ∃ other ∈ sinks, extractionLabel? other = some sink.name)

theorem Stage.collectedLabels_collectStage (labels : List String) :
    (collectStage labels).collectedLabels = labels := by
  change (labels.map Value.text).filterMap Value.text? = labels
  rw [List.filterMap_map]
  exact List.filterMap_some

/-- A location is looked up with the first stage that declares it. -/
theorem lookup_filterMap_declaration? {sinks : List Stage}
    (plain : ∀ sink ∈ sinks, sink.kind ≠ .adapter) {location origin : String} :
    (sinks.filterMap Stage.declaration?).lookup location = some origin ↔
      ∃ first, sinks.find? (·.location? = some location) = some first ∧ first.name = origin := by
  have same : sinks.find? (·.Declares location) = sinks.find? (·.location? = some location) :=
    List.find?_congr fun sink member => by simp [Stage.declares_iff, plain sink member]
  rw [lookup_declaration?, same]

namespace Assembly.Parts

variable {store : Store} {isFinal : Bool} {target : Option Target} {assembly : Assembly}
  {nodes : List Node} {own : List Stage} {sources sinks : List (List Stage)}
  (parts : assembly.Parts store nodes isFinal target own sources sinks)

include parts

theorem kind_of_mem_sinks {sink : Stage} (member : sink ∈ sinks.flatten) :
    sink.kind ≠ .adapter := by
  obtain ⟨_, _, _, template, made⟩ := exists_node_of_mem_sinks parts.handled member
  rw [made]
  exact kind_ofTemplate template _

theorem labelsFor_eq :
    labelsFor own (sinks.flatten.map Stage.name) = sinks.flatten.filterMap extractionLabel?
      ++ (sinkLocations own (sinks.flatten.map Stage.name)).map Prod.snd := by
  rw [labelsFor, Stage.filterMap_find? parts.undecorated.distinct parts.sinks_subset_own]

/-- A fragment collects the labels of what its sinks extract and declare. -/
theorem collected_eq :
    assembly.fragment.collected = labelsFor own (sinks.flatten.map Stage.name) := by
  unfold Fragment.collected Fragment.stage?
  cases labels : labelsFor own (sinks.flatten.map Stage.name) with
  | nil =>
    have none : collectionsFor own (sinks.flatten.map Stage.name) = [] := by
      rw [collectionsFor, labels]
      rfl
    have absent : collectName ∉ assembly.fragment.stages.map Stage.name := by
      rw [parts.stages, adaptersFor, none, List.append_nil, List.map_append, List.mem_append,
        not_or]
      exact ⟨parts.undecorated.notMem_of_isAdapterName (.inr (.inl rfl)), collectName_notMem _ _ _⟩
    rw [Stage.find?_eq_none_iff.mpr absent]
    rfl
  | cons label others =>
    have some : collectionsFor own (sinks.flatten.map Stage.name) =
        [collectStage (label :: others)] := by
      rw [collectionsFor, labels]
      rfl
    have member : collectStage (label :: others) ∈ assembly.fragment.stages := by
      rw [parts.stages, adaptersFor, some]
      simp
    have found := Stage.find?_of_mem parts.distinct member
    change Stage.find? _ collectName = _ at found
    rw [found]
    exact Stage.collectedLabels_collectStage _

/-- What is collected is extracted by a sink itself, or declared first by the sink of its name. -/
theorem mem_collected {name : String} :
    name ∈ assembly.fragment.collected ↔
      (∃ sink ∈ sinks.flatten, extractionLabel? sink = some name) ∨
        ∃ location first, sinks.flatten.find? (·.location? = some location) = some first ∧
          first.name = name := by
  have declared : declarations own (sinks.flatten.map Stage.name) =
      sinks.flatten.filterMap Stage.declaration? := by
    rw [declarations, Stage.filterMap_find? parts.undecorated.distinct parts.sinks_subset_own]
  have plain : ∀ sink ∈ sinks.flatten, sink.kind ≠ .adapter := fun _ => parts.kind_of_mem_sinks
  rw [parts.collected_eq, parts.labelsFor_eq, List.mem_append, List.mem_filterMap, List.mem_map,
    Prod.exists]
  simp only [mem_sinkLocations, declared, lookup_filterMap_declaration? plain, exists_eq_right]

/-- A sink with a location is collected under its name if it is the first that declares the
location. -/
theorem mem_collected_of_mem_sinks {sink : Stage} (member : sink ∈ sinks.flatten)
    {location : String} (located : sink.location? = some location) :
    sink.name ∈ assembly.fragment.collected ↔
      sinks.flatten.find? (·.location? = sink.location?) = some sink ∨
        ∃ other ∈ sinks.flatten, extractionLabel? other = some sink.name := by
  rw [parts.mem_collected, or_comm, located]
  refine or_congr_left ⟨?_, fun found => ⟨location, sink, found, rfl⟩⟩
  rintro ⟨other, first, found, named⟩
  -- Names are distinct, so that the first sink is the one that is asked for.
  have listed := List.mem_of_find?_eq_some found
  obtain rfl := List.inj_on_of_nodup_map parts.undecorated.distinct (parts.sinks_subset_own listed)
    (parts.sinks_subset_own member) named
  have declared : first.location? = some other := by simpa using List.find?_some found
  cases located.symm.trans declared
  exact found

end Assembly.Parts

namespace Compilation

variable {store : Store} {settings : Settings} {root : Description} {compilation : Compilation}

/-- **Which results are collected.** -/
theorem collectsFiles_of_compile (compiled : compile store settings root = .ok compilation) :
    ∃ graph, Graph.build root settings.maxDepth = .ok graph ∧
      ∀ place node, graph.steps[place]? = some node →
        ∃ pipeline fragment sinks, compilation.RunsFragment place pipeline fragment ∧
          (graph.inputsOf node).mapM (Assembly.sinkStages store false) = .ok sinks ∧
          CollectsFiles pipeline fragment sinks.flatten := by
  obtain ⟨graph, built, follows⟩ := compile_ok compiled
  refine ⟨graph, built, ?_⟩
  intro place node known
  obtain ⟨assembly, descriptor, tool, step⟩ := follows.step place node known
  obtain ⟨own, sources, sinks, parts⟩ := Assembly.parts_of_ofNodes step.assembled
  refine ⟨_, _, sinks, step.runsFragment, parts.handled, ?_⟩
  have declared : ∀ name ∈ (pipelineStep settings (settings.fragmentName place)
      (graph.inputsOf node) false).inputs.fromContainer, ∃ sink ∈ sinks.flatten,
        sink.name = name ∧ ∃ location, sink.location? = some location := by
    intro name member
    obtain ⟨input, used, rfl⟩ := List.mem_map.mp member
    obtain ⟨index, chosen⟩ := List.mem_iff_getElem?.mp used
    have listed : node ∈ graph.nodes := List.mem_of_mem_filter (List.mem_of_getElem? known)
    obtain ⟨file, sink, own, same, located, _⟩ := step.exists_sink built listed parts chosen
    exact ⟨sink, own, same, file, located⟩
  constructor
  case stages => exact parts.sinks_subset
  case declared => exact declared
  case collected =>
    intro sink member location located
    have some : (sinks.flatten.find? (·.location? = some location)).isSome := by
      rw [List.find?_isSome]
      exact ⟨sink, member, by simpa using located⟩
    obtain ⟨first, found⟩ := Option.isSome_iff_exists.mp some
    exact ⟨first, found, parts.mem_collected.mpr (.inr ⟨location, first, found, rfl⟩)⟩
  case exact =>
    intro sink member taken
    obtain ⟨other, listed, same, location, located⟩ := declared _ taken
    obtain rfl := List.inj_on_of_nodup_map parts.undecorated.distinct
      (parts.sinks_subset_own listed) (parts.sinks_subset_own member) same
    exact parts.mem_collected_of_mem_sinks member located

/-- Both results for the second tool of the workflow with two tools are collected, as its sinks
declare different locations. -/
theorem collectsFiles_twoTools :
    ∃ compilation pipeline fragment sinks, compile .twoTools {} .twoTools = .ok compilation ∧
      compilation.RunsFragment 1 pipeline fragment ∧ CollectsFiles pipeline fragment sinks ∧
      pipeline.inputs.fromContainer = ["datanode_0_input", "datanode_3_input"] ∧
      fragment.collected = ["datanode_0_input", "datanode_3_input"] := by
  obtain ⟨compilation, compiled⟩ := compile_twoTools
  obtain ⟨graph, built, each⟩ := collectsFiles_of_compile compiled
  cases built
  cases compiled
  obtain ⟨pipeline, fragment, sinks, runs, _, collects⟩ := each 1 _ rfl
  refine ⟨_, pipeline, fragment, _, rfl, runs, collects, ?_, ?_⟩
  · cases runs.step
    rfl
  · obtain ⟨_, found, _⟩ := runs.file
    cases found
    rfl

end Compilation

/-! ## A result that is not collected -/

/-- A tool that expects two artifacts in one file. -/
def Store.sharedFile : Store where
  entries :=
    [("first", .dataset [⟨"dataresource", [("downloadUrl", .text "https://example.org/first")]⟩]),
      ("second", .dataset [⟨"dataresource", [("downloadUrl", .text "https://example.org/second")]⟩]),
      ("tool", .tool
        { input :=
            [("first", [⟨"function", [("location", .text "shared.inp")]⟩]),
              ("second", [⟨"function", [("location", .text "shared.inp")]⟩])]
          output := [("result", [⟨"dataresource", [("downloadUrl", .text "result.csv")]⟩])]
          command := some "tool.sh --in shared.inp"
          executor := some "execwrapper" })]

/-- A result that a tool produces from two datasets. -/
def Description.twoInputs : Description :=
  (branch "result").producedBy
    (((branch "tool").consuming (leaf "first")).consuming (leaf "second"))

/-- The result for the second input is taken out of the container and not collected. -/
theorem Compilation.exists_uncollected :
    ∃ compilation pipeline fragment name, compile .sharedFile {} .twoInputs = .ok compilation ∧
      compilation.RunsFragment 0 pipeline fragment ∧
      name ∈ pipeline.inputs.fromContainer ∧ name ∉ fragment.collected := by
  refine ⟨_, _, _, "datanode_1_input", rfl, ⟨rfl, _, rfl, rfl⟩, ?_, ?_⟩
  · decide
  · decide

end WorkflowChain
