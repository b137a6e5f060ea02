import WorkflowChain.Proofs.Compile.ChainLayout
import WorkflowChain.Proofs.Compile.FragmentStages
import WorkflowChain.Proofs.Pipeline.Pipe

/-! # The order of a pipe

The pipe of an assembled fragment runs each of its stages once. Data comes from the sources, which
are wrapped into the container if one of them is a function, and goes on to the sinks; then the
files of the sinks are extracted and collected. Within the sources, and within the sinks, the stages
stand in the order of their nodes.
-/

namespace WorkflowChain

/-- The stages of a fragment that have a name; as names are distinct there is at most one. -/
def Fragment.named (fragment : Fragment) (name : String) : List Stage :=
  fragment.stages.filter (·.name = name)

/-- The adapters of a fragment that extract files from the container. -/
def Fragment.extractions (fragment : Fragment) : List Stage :=
  fragment.stages.filter fun stage =>
    stage.kind = .adapter && stage.functionType? = some extractFunction

/-- The pipe of a fragment runs its stages in order. The sources and sinks are given in groups, one
for each node. -/
structure Fragment.RunsInOrder (fragment : Fragment) (sources sinks : List (List Stage)) :
    Prop where
  distinct : (fragment.stages.map Stage.name).Nodup
  /-- Every stage is run once, and nothing else is. -/
  once : fragment.pipeNames.Perm (fragment.stages.map Stage.name)
  /-- The stages are those of the groups, and adapters. -/
  stages : fragment.stages.Perm (fragment.named wrapName ++ sources.flatten ++ sinks.flatten
    ++ fragment.extractions ++ fragment.named collectName)
  order : fragment.pipeNames = (fragment.named wrapName ++ sources.flatten ++ sinks.flatten
    ++ fragment.extractions ++ fragment.named collectName).map Stage.name

/-! ## Names in a pipe -/

theorem bar_notMem_toDigits (number : Nat) : '|' ∉ Nat.toDigits 10 number := by
  intro member
  have digit := Nat.isDigit_of_mem_toDigits (by decide) (by decide) member
  cases digit

/-- A name that fits into a pipe still does with an ending that has no bar. -/
theorem PipeName.append {name ending : String} (pipeName : PipeName name)
    (plain : '|' ∉ ending.toList) : PipeName (name ++ ending) := by
  constructor
  · simp [pipeName.filled]
  · rw [String.toList_append, List.mem_append, not_or]
    exact ⟨pipeName.plain, plain⟩

theorem Node.pipeName_slot (node : Node) (direction : Direction) :
    PipeName (node.slot direction) := by
  constructor
  · simp [slot]
  · exact node.notMem_slot direction (by decide) (by decide)

theorem Node.StageName.pipeName {node : Node} {direction : Direction} {name : String}
    (named : node.StageName direction name) : PipeName name := by
  cases named with
  | plain => exact node.pipeName_slot direction
  | numbered _ place =>
    rw [String.append_assoc]
    refine (node.pipeName_slot direction).append ?_
    rw [String.toList_append, List.mem_append, not_or, Nat.toString_eq_repr, Nat.toList_repr]
    exact ⟨by decide, bar_notMem_toDigits place⟩
  | conversion => exact (node.pipeName_slot .output).append (by decide)

/-! ## Adapters of a fragment -/

/-- What a test picks from the middle of a list. -/
theorem filter_middle {α : Type} {test : α → Bool} {before picked after : List α}
    (earlier : ∀ item ∈ before, ¬test item) (own : ∀ item ∈ picked, test item)
    (later : ∀ item ∈ after, ¬test item) : (before ++ picked ++ after).filter test = picked := by
  rw [List.filter_append, List.filter_append, List.filter_eq_nil_iff.mpr earlier,
    List.filter_eq_self.mpr own, List.filter_eq_nil_iff.mpr later, List.nil_append, List.append_nil]

theorem Stage.functionType?_function (kind : StageKind) (name functionType : String)
    (configuration : Configuration) :
    (Stage.function kind name functionType configuration).functionType? = some functionType :=
  rfl

namespace Assembly.Parts

variable {store : Store} {isFinal : Bool} {target : Option Target} {assembly : Assembly}
  {nodes : List Node} {own : List Stage} {sources sinks : List (List Stage)}
  (parts : assembly.Parts store nodes isFinal target own sources sinks)

include parts

theorem named_wrapName :
    assembly.fragment.named wrapName = wrapsFor own (sources.flatten.map Stage.name) := by
  rw [Fragment.named, parts.stages, adaptersFor, List.append_assoc, ← List.append_assoc]
  apply filter_middle
  · intro stage member
    have other : stage.name ≠ wrapName :=
      fun same => parts.undecorated.unreserved stage member (.inl same)
    simpa using other
  · intro stage member
    simpa using (isWrap_of_mem_wrapsFor member).1
  · intro stage member
    rw [decide_eq_true_eq]
    rcases List.mem_append.mp member with extraction | collection
    · obtain ⟨⟨origin, named⟩, _⟩ := isExtraction_of_mem_extractionsFor extraction
      rw [named]
      exact extractName_ne (by decide)
    · rw [(isCollection_of_mem_collectionsFor collection).1]
      decide

theorem named_collectName :
    assembly.fragment.named collectName = collectionsFor own (sinks.flatten.map Stage.name) := by
  rw [Fragment.named, parts.stages, adaptersFor, ← List.append_assoc, ← List.append_nil
    (own ++ _ ++ _)]
  apply filter_middle
  · intro stage member
    rw [decide_eq_true_eq]
    rcases List.mem_append.mp member with member | adapter
    · exact fun same => parts.undecorated.unreserved stage member (.inr (.inl same))
    · intro same
      exact collectName_notMem _ _ _ (List.mem_map.mpr ⟨stage, adapter, same⟩)
  · intro stage member
    simpa using (isCollection_of_mem_collectionsFor member).1
  · exact fun _ member => absurd member List.not_mem_nil

/-- What runs the function of extraction stages, among the adapters, are the extraction stages. -/
theorem extractions_eq :
    assembly.fragment.extractions = extractionsFor own (sinks.flatten.map Stage.name) := by
  rw [Fragment.extractions, parts.stages, adaptersFor, ← List.append_assoc, ← List.append_assoc]
  apply filter_middle
  · intro stage member
    rcases List.mem_append.mp member with member | wrap
    · simp [parts.kind_of_mem_own member]
    · unfold wrapsFor at wrap
      split at wrap
      · cases List.mem_singleton.mp wrap
        have other : wrapFunction ≠ extractFunction := by decide
        simp [wrapStage, Stage.functionType?_function, other]
      · exact absurd wrap List.not_mem_nil
  · intro stage member
    obtain ⟨file, _, rfl⟩ := List.mem_map.mp member
    rfl
  · intro stage member
    unfold collectionsFor at member
    split at member
    · exact absurd member List.not_mem_nil
    · cases List.mem_singleton.mp member
      have other : collectFunction ≠ extractFunction := by decide
      simp [collectStage, Stage.functionType?_function, other]

/-- A fragment has its own stages and adapters, and nothing else. -/
theorem stages_perm :
    assembly.fragment.stages.Perm (assembly.fragment.named wrapName ++ sources.flatten
      ++ sinks.flatten ++ assembly.fragment.extractions
      ++ assembly.fragment.named collectName) := by
  rw [parts.named_wrapName, parts.extractions_eq, parts.named_collectName, parts.stages,
    adaptersFor, List.append_assoc (wrapsFor _ _)]
  -- The wrap stage moves in front of the sources.
  have moved := List.perm_append_comm_assoc (sources.flatten ++ sinks.flatten)
    (wrapsFor own (sources.flatten.map Stage.name))
    (extractionsFor own (sinks.flatten.map Stage.name)
      ++ collectionsFor own (sinks.flatten.map Stage.name))
  simp only [List.append_assoc] at moved ⊢
  exact (parts.order.append_right _).trans (by simpa only [List.append_assoc] using moved)

/-- The stages of a fragment that are no adapters have names that fit into a pipe. -/
theorem pipeName_of_mem_own {stage : Stage} (member : stage ∈ own) : PipeName stage.name := by
  rcases parts.exists_node_of_mem_own member with ⟨_, _, _, named, _⟩ | ⟨_, _, named, _⟩
  · exact named.pipeName
  · exact named.pipeName

/-- The name of an extraction stage begins with that of a sink. -/
theorem pipeName_of_mem {stage : Stage} (member : stage ∈ assembly.fragment.stages) :
    PipeName stage.name := by
  rw [parts.stages, adaptersFor, List.mem_append, List.mem_append, List.mem_append] at member
  rcases member with member | (wrap | extraction) | collection
  · exact parts.pipeName_of_mem_own member
  · rw [(isWrap_of_mem_wrapsFor wrap).1]
    exact ⟨by decide, by decide⟩
  · obtain ⟨⟨location, origin⟩, listed, rfl⟩ := List.mem_map.mp extraction
    obtain ⟨sink, found, _⟩ := exists_stage_of_mem_sinkLocations listed
    obtain ⟨known, rfl⟩ := Stage.mem_of_find? found
    exact (parts.pipeName_of_mem_own known).append (by decide)
  · rw [(isCollection_of_mem_collectionsFor collection).1]
    exact ⟨by decide, by decide⟩

/-- **The pipe of a fragment** leads from the wrap stage through the sources to the sinks, and from
there through the extraction stages to the collection stage. Its names can be read off, as none has
a bar. -/
theorem pipeNames_eq :
    assembly.fragment.pipeNames = (assembly.fragment.named wrapName ++ sources.flatten
      ++ sinks.flatten ++ assembly.fragment.extractions
      ++ assembly.fragment.named collectName).map Stage.name := by
  have each : ∀ name ∈ (assembly.fragment.named wrapName ++ sources.flatten ++ sinks.flatten
      ++ assembly.fragment.extractions ++ assembly.fragment.named collectName).map Stage.name,
      PipeName name := by
    intro name listed
    obtain ⟨stage, member, rfl⟩ := List.mem_map.mp listed
    exact parts.pipeName_of_mem (parts.stages_perm.mem_iff.mpr member)
  rw [parts.named_wrapName, parts.extractions_eq, parts.named_collectName] at each ⊢
  simp only [List.map_append, List.append_assoc] at each ⊢
  rw [Fragment.pipeNames, parts.pipe, PipeSides.pipe, pipeExpression_eq]
  · simp only [List.append_assoc]
    exact pipeNames_joinWith each
  · simp only [List.append_assoc]
    exact fun name member => (each name member).filled

end Assembly.Parts

/-- **The order of a pipe.** -/
theorem Assembly.runsInOrder_of_ofNodes {store : Store} {nodes : List Node} {isFinal : Bool}
    {target : Option Target} {assembly : Assembly}
    (assembled : ofNodes store nodes isFinal target = .ok assembly) :
    ∃ sources sinks, nodes.mapM (sourceStages store isFinal target) = .ok sources ∧
      nodes.mapM (sinkStages store isFinal) = .ok sinks ∧
      assembly.fragment.RunsInOrder sources sinks := by
  obtain ⟨own, sources, sinks, parts⟩ := parts_of_ofNodes assembled
  refine ⟨sources, sinks, parts.loaded, parts.handled, ?_⟩
  constructor
  case distinct => exact parts.distinct
  case once =>
    rw [parts.pipeNames_eq]
    exact (parts.stages_perm.map Stage.name).symm
  case stages => exact parts.stages_perm
  case order => exact parts.pipeNames_eq

/-- The fragment for the second tool of the workflow with two tools loads the geometry and converts
the mesh. -/
theorem Assembly.runsInOrder_twoTools :
    ∃ assembly sources sinks, ofNodes .twoTools
        [Description.twoTools.nodeAt 0 [0, 0], Description.twoTools.nodeAt 0 [0, 1]] false none =
          .ok assembly ∧
      assembly.fragment.RunsInOrder sources sinks ∧
      assembly.fragment.pipeNames = [wrapName, "datanode_0_output", "datanode_3_output_convert",
        "datanode_3_output", "datanode_0_input", "datanode_3_input",
        extractName "datanode_0_input", extractName "datanode_3_input", collectName] := by
  obtain ⟨assembly, assembled⟩ : ∃ assembly, ofNodes .twoTools
        [Description.twoTools.nodeAt 0 [0, 0], Description.twoTools.nodeAt 0 [0, 1]] false none =
          .ok assembly := ⟨_, rfl⟩
  obtain ⟨sources, sinks, loaded, handled, runs⟩ := runsInOrder_of_ofNodes assembled
  refine ⟨assembly, sources, sinks, assembled, runs, ?_⟩
  rw [runs.order]
  cases assembled
  cases loaded
  cases handled
  rfl

end WorkflowChain
