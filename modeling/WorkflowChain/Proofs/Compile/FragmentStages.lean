import WorkflowChain.Proofs.Compile.Assembly
import WorkflowChain.Proofs.Compile.StageName

/-! # The stages of a fragment

A fragment has the stages of its sources and of its sinks, and the adapters that these need
(`Assembly.parts_of_ofNodes`). The stages of sources and sinks are made from templates, but for
those that convert or export a produced artifact, which are synthesized. As they have no name of an
adapter, all that is known of decorated stages is known of every fragment.
-/

namespace WorkflowChain

namespace Assembly

variable {store : Store} {isFinal : Bool} {target : Option Target} {node : Node}

/-! ## Stages of templates -/

/-- The stages of templates are named after the slot of the node. -/
theorem mem_templateStages {direction : Direction} {templates : List Template} {stage : Stage}
    (member : stage ∈ templateStages node direction templates) :
    node.StageName direction stage.name ∧
      ∃ template, stage = Stage.ofTemplate template stage.name := by
  obtain ⟨place, bound, rfl⟩ := List.mem_mapIdx.mp member
  refine ⟨?_, _, rfl⟩
  simp only [Stage.ofTemplate]
  split
  · exact .plain direction
  · exact .numbered direction place

/-- The last template of a side becomes the stage with the name of the slot. -/
theorem ofTemplate_mem_templateStages {direction : Direction} {templates : List Template}
    {template : Template} (last : templates.getLast? = some template) :
    Stage.ofTemplate template (node.slot direction) ∈ templateStages node direction templates := by
  obtain ⟨before, rfl⟩ := List.getLast?_eq_some_iff.mp last
  refine List.mem_mapIdx.mpr ⟨before.length, by simp, ?_⟩
  simp

/-- Templates become no adapters. -/
theorem kind_ofTemplate (template : Template) (name : String) :
    (Stage.ofTemplate template name).kind ≠ .adapter := by
  unfold Stage.ofTemplate Template.kind? StageKind.ofStrategy?
  split <;> simp

/-! ## Sources and sinks -/

/-- A stage is synthesized for a node: it converts the artifact of the node, or exports it. -/
inductive Synthesized (node : Node) : Stage → Prop where
  | conversion (native : String) : Synthesized node (conversionStage node native)
  | exporting {templates : List Template} {target : Option Target} {stage : Stage}
      (made : exportStage node templates target = .ok stage) : Synthesized node stage

/-- An export stage has the name of the slot of the artifact, and gives the slot to its function. -/
theorem exportStage_ok {templates : List Template} {stage : Stage}
    (made : exportStage node templates target = .ok stage) :
    ∃ configuration, stage = .function .conversion (node.slot .output) exportFunction
      (("datanode", .text (node.slot .output)) :: configuration) := by
  unfold exportStage at made
  split at made
  · cases made
  · cases made
    exact ⟨_, rfl⟩

namespace Synthesized

variable {stage : Stage}

theorem stageName (made : Synthesized node stage) : node.StageName .output stage.name := by
  cases made with
  | conversion => exact .conversion
  | exporting made =>
    obtain ⟨_, rfl⟩ := exportStage_ok made
    exact .plain .output

theorem kind (made : Synthesized node stage) : stage.kind = .conversion := by
  cases made with
  | conversion => rfl
  | exporting made =>
    obtain ⟨_, rfl⟩ := exportStage_ok made
    rfl

end Synthesized

/-- A source stage is made from a template, or synthesized. -/
theorem mem_sourceStages {sources : List Stage} {stage : Stage}
    (loaded : sourceStages store isFinal target node = .ok sources) (member : stage ∈ sources) :
    node.kind.output ≠ "" ∧ node.StageName .output stage.name ∧
      ((∃ template, stage = Stage.ofTemplate template stage.name) ∨ Synthesized node stage) := by
  unfold sourceStages at loaded
  split at loaded
  next dataset =>
    obtain ⟨templates, _, loaded⟩ := bind_ok.mp loaded
    cases loaded
    obtain ⟨named, made⟩ := mem_templateStages member
    refine ⟨?_, named, .inl made⟩
    rw [of_decide_eq_true dataset]
    decide
  · split at loaded
    · cases loaded
      exact absurd member List.not_mem_nil
    next produced =>
      have filled : node.kind.output ≠ "" := by
        simpa [String.isEmpty_iff] using produced
      refine ⟨filled, ?_⟩
      obtain ⟨templates, _, loaded⟩ := bind_ok.mp loaded
      split at loaded
      · obtain ⟨exported, made, loaded⟩ := bind_ok.mp loaded
        cases loaded
        cases List.mem_singleton.mp member
        have made := Synthesized.exporting made
        exact ⟨made.stageName, .inr made⟩
      · obtain ⟨native, _, loaded⟩ := bind_ok.mp loaded
        cases loaded
        rcases List.mem_cons.mp member with rfl | member
        · exact ⟨.conversion, .inr (.conversion native)⟩
        · obtain ⟨named, made⟩ := mem_templateStages member
          exact ⟨named, .inl made⟩

/-- Sinks are made of templates, under names of the node. -/
theorem mem_sinkStages {sinks : List Stage} {stage : Stage}
    (handled : sinkStages store isFinal node = .ok sinks) (member : stage ∈ sinks) :
    node.StageName .input stage.name ∧
      ∃ template, stage = Stage.ofTemplate template stage.name := by
  unfold sinkStages at handled
  split at handled
  · cases handled
    exact absurd member List.not_mem_nil
  · obtain ⟨templates, _, handled⟩ := bind_ok.mp handled
    cases handled
    exact mem_templateStages member

/-- Each source of a fragment belongs to one of its nodes, which is produced by something. -/
theorem exists_node_of_mem_sources {nodes : List Node} {sources : List (List Stage)} {stage : Stage}
    (loaded : nodes.mapM (sourceStages store isFinal target) = .ok sources)
    (member : stage ∈ sources.flatten) :
    ∃ node ∈ nodes, node.kind.output ≠ "" ∧ node.StageName .output stage.name ∧
      ((∃ template, stage = Stage.ofTemplate template stage.name) ∨ Synthesized node stage) := by
  obtain ⟨_, listed, member⟩ := List.mem_flatten.mp member
  obtain ⟨node, used, made⟩ := exists_item_of_mapM_ok loaded listed
  exact ⟨node, used, mem_sourceStages made member⟩

theorem exists_node_of_mem_sinks {nodes : List Node} {sinks : List (List Stage)} {stage : Stage}
    (handled : nodes.mapM (sinkStages store isFinal) = .ok sinks) (member : stage ∈ sinks.flatten) :
    ∃ node ∈ nodes, node.StageName .input stage.name ∧
      ∃ template, stage = Stage.ofTemplate template stage.name := by
  obtain ⟨_, listed, member⟩ := List.mem_flatten.mp member
  obtain ⟨node, used, made⟩ := exists_item_of_mapM_ok handled listed
  exact ⟨node, used, mem_sinkStages made member⟩

/-! ## Fragments -/

/-- The stages of a node are its sources and its sinks. -/
theorem nodeStages_ok {stages : List (Direction × Stage)}
    (made : nodeStages store isFinal target node = .ok stages) :
    ∃ sources sinks, sourceStages store isFinal target node = .ok sources ∧
      sinkStages store isFinal node = .ok sinks ∧
      stages = sources.map (Direction.output, ·) ++ sinks.map (Direction.input, ·) := by
  obtain ⟨sources, loaded, made⟩ := bind_ok.mp made
  obtain ⟨sinks, handled, made⟩ := bind_ok.mp made
  cases made
  exact ⟨sources, sinks, loaded, handled, rfl⟩

theorem sidesOf_append (left right : List (Direction × Stage)) :
    sidesOf (left ++ right) =
      { output := (sidesOf left).output ++ (sidesOf right).output
        input := (sidesOf left).input ++ (sidesOf right).input } := by
  simp [sidesOf]

theorem sidesOf_sources_sinks (sources sinks : List Stage) :
    sidesOf (sources.map (Direction.output, ·) ++ sinks.map (Direction.input, ·)) =
      ⟨sources.map Stage.name, sinks.map Stage.name⟩ := by
  simp [sidesOf, List.filter_map, Function.comp_def]

/-- The stages of some nodes are their source stages and their sink stages, each on its side. -/
theorem mapM_nodeStages_ok {nodes : List Node} {each : List (List (Direction × Stage))}
    (made : nodes.mapM (nodeStages store isFinal target) = .ok each) :
    ∃ sources sinks, nodes.mapM (sourceStages store isFinal target) = .ok sources ∧
      nodes.mapM (sinkStages store isFinal) = .ok sinks ∧
      (each.flatten.map Prod.snd).Perm (sources.flatten ++ sinks.flatten) ∧
      sidesOf each.flatten = ⟨sources.flatten.map Stage.name, sinks.flatten.map Stage.name⟩ := by
  simp only [mapM_ok] at made ⊢
  induction made with
  | nil => exact ⟨[], [], .nil, .nil, .refl _, rfl⟩
  | cons own _ ih =>
    obtain ⟨sources, sinks, loaded, handled, rfl⟩ := nodeStages_ok own
    obtain ⟨others, rest, loadedRest, handledRest, order, sides⟩ := ih
    refine ⟨sources :: others, sinks :: rest, .cons loaded loadedRest, .cons handled handledRest,
      ?_, ?_⟩
    · -- The sinks of the first node move behind the sources of the others.
      have names : (sources.map (Direction.output, ·) ++ sinks.map (Direction.input, ·)).map
          Prod.snd = sources ++ sinks := by
        simp [Function.comp_def]
      rw [List.flatten_cons, List.map_append, names, List.flatten_cons, List.flatten_cons,
        List.append_assoc, List.append_assoc]
      exact ((order.append_left sinks).trans (List.perm_append_comm_assoc _ _ _)).append_left
        sources
    · rw [List.flatten_cons, sidesOf_append, sidesOf_sources_sinks, sides]
      simp

/-- What a fragment over some nodes consists of: the stages of its own, which are the sources and
sinks of the nodes, and the adapters that these need. -/
structure Parts (assembly : Assembly) (store : Store) (nodes : List Node) (isFinal : Bool)
    (target : Option Target) (own : List Stage) (sources sinks : List (List Stage)) : Prop where
  loaded : nodes.mapM (sourceStages store isFinal target) = .ok sources
  handled : nodes.mapM (sinkStages store isFinal) = .ok sinks
  order : own.Perm (sources.flatten ++ sinks.flatten)
  undecorated : Undecorated own ⟨sources.flatten.map Stage.name, sinks.flatten.map Stage.name⟩
  stages : assembly.fragment.stages =
    own ++ adaptersFor own ⟨sources.flatten.map Stage.name, sinks.flatten.map Stage.name⟩
  pipe : assembly.fragment.pipe = PipeSides.pipe
    { output := (wrapsFor own (sources.flatten.map Stage.name)).map Stage.name
        ++ sources.flatten.map Stage.name
      input := sinks.flatten.map Stage.name
        ++ (extractionsFor own (sinks.flatten.map Stage.name)).map Stage.name
        ++ (collectionsFor own (sinks.flatten.map Stage.name)).map Stage.name }

namespace Parts

variable {assembly : Assembly} {nodes : List Node} {own : List Stage}
  {sources sinks : List (List Stage)}
  (parts : assembly.Parts store nodes isFinal target own sources sinks)

include parts

/-- No two stages of a fragment have one name, adapters included. -/
theorem distinct : (assembly.fragment.stages.map Stage.name).Nodup :=
  parts.stages ▸ parts.undecorated.distinct_decorated

theorem sinks_subset_own : sinks.flatten ⊆ own :=
  fun _ member => parts.order.mem_iff.mpr (List.mem_append_right _ member)

theorem sinks_subset : sinks.flatten ⊆ assembly.fragment.stages := by
  rw [parts.stages]
  exact fun _ member => List.mem_append_left _ (parts.sinks_subset_own member)

/-- Stages without adapters are sources or sinks of a node. -/
theorem exists_node_of_mem_own {stage : Stage} (member : stage ∈ own) :
    (∃ node ∈ nodes, node.kind.output ≠ "" ∧ node.StageName .output stage.name ∧
      ((∃ template, stage = Stage.ofTemplate template stage.name) ∨ Synthesized node stage)) ∨
    ∃ node ∈ nodes, node.StageName .input stage.name ∧
      ∃ template, stage = Stage.ofTemplate template stage.name := by
  rcases List.mem_append.mp (parts.order.mem_iff.mp member) with source | sink
  · exact .inl (exists_node_of_mem_sources parts.loaded source)
  · exact .inr (exists_node_of_mem_sinks parts.handled sink)

/-- The stages of the nodes are no adapters. -/
theorem kind_of_mem_own {stage : Stage} (member : stage ∈ own) : stage.kind ≠ .adapter := by
  rcases parts.exists_node_of_mem_own member with
    ⟨_, _, _, _, ⟨template, made⟩ | made⟩ | ⟨_, _, _, template, made⟩
  · rw [made]
    exact kind_ofTemplate template _
  · rw [made.kind]
    decide
  · rw [made]
    exact kind_ofTemplate template _

end Parts

/-- The stages of some nodes carry no name of an adapter. -/
theorem undecorated_of_distinct {nodes : List Node} {own : List Stage}
    {sources sinks : List (List Stage)}
    (loaded : nodes.mapM (sourceStages store isFinal target) = .ok sources)
    (handled : nodes.mapM (sinkStages store isFinal) = .ok sinks)
    (order : own.Perm (sources.flatten ++ sinks.flatten))
    (distinct : (own.map Stage.name).Nodup) :
    Undecorated own ⟨sources.flatten.map Stage.name, sinks.flatten.map Stage.name⟩ := by
  constructor
  case distinct => exact distinct
  case unreserved =>
    intro stage member
    rcases List.mem_append.mp (order.mem_iff.mp member) with source | sink
    · obtain ⟨_, _, _, named, _⟩ := exists_node_of_mem_sources loaded source
      exact named.not_isAdapterName
    · obtain ⟨_, _, named, _⟩ := exists_node_of_mem_sinks handled sink
      exact named.not_isAdapterName
  case sources =>
    exact List.map_subset _ fun stage member => order.mem_iff.mpr (List.mem_append_left _ member)
  case sinks =>
    exact List.map_subset _ fun stage member => order.mem_iff.mpr (List.mem_append_right _ member)

/-- **The parts of a fragment.** -/
theorem parts_of_ofNodes {nodes : List Node} {assembly : Assembly}
    (assembled : ofNodes store nodes isFinal target = .ok assembly) :
    ∃ own sources sinks, assembly.Parts store nodes isFinal target own sources sinks := by
  obtain ⟨each, stages, sides, made, decorated, rfl⟩ := ofNodes_ok assembled
  obtain ⟨sources, sinks, loaded, handled, order, named⟩ := mapM_nodeStages_ok made
  rw [named] at decorated
  obtain ⟨_, accepted, _⟩ := bind_ok.mp decorated
  have undecorated := undecorated_of_distinct loaded handled order (checkUniqueNames_ok.mp accepted)
  rw [undecorated.decorate_eq] at decorated
  cases decorated
  exact ⟨_, sources, sinks, loaded, handled, order, undecorated, rfl, rfl⟩

end Assembly

end WorkflowChain
