import WorkflowChain.Compile.Assembly
import WorkflowChain.Proofs.Success

/-! # Assemblies that succeed

A fragment is assembled only if there are templates for both sides of each of its nodes. What the
templates say about the store is in `Assembly.exists_templates_of_ofNodes`: an artifact that is
produced and not loaded has a producer, which documents it.
-/

namespace WorkflowChain

/-- The templates of a tool for an artifact are those that its descriptor has. -/
theorem Store.toolTemplates_ok {store : Store} {tool artifact : String} {direction : Direction}
    {templates : List Template} :
    store.toolTemplates tool direction artifact = .ok templates ↔
      ∃ descriptor, store.descriptor tool = .ok descriptor ∧
        descriptor.templatesFor? direction artifact = some templates := by
  refine bind_ok.trans (exists_congr fun descriptor => and_congr_right fun _ => ?_)
  cases documented : descriptor.templatesFor? direction artifact with
  | none => exact ⟨nofun, nofun⟩
  | some found =>
    constructor
    · exact fun same => congrArg some (Except.ok.inj same)
    · exact fun same => congrArg Except.ok (Option.some.inj same)

/-- A tool documents an artifact only if its bindings on that side are not empty. -/
theorem Descriptor.bindings_ne_nil {descriptor : Descriptor} {direction : Direction}
    {artifact : String} {templates : List Template}
    (documented : descriptor.templatesFor? direction artifact = some templates) :
    descriptor.bindings direction ≠ [] := by
  intro empty
  rw [templatesFor?, empty] at documented
  cases documented

namespace Assembly

variable {store : Store} {isFinal : Bool} {target : Option Target} {node : Node}

/-- A fragment is assembled in four steps: the target is checked, the stages of all nodes are made,
they are decorated, and the pipe is laid through them. -/
theorem ofNodes_eq (store : Store) (nodes : List Node) (isFinal : Bool) (target : Option Target) :
    ofNodes store nodes isFinal target = (target.elim (.ok ()) Target.check >>= fun _ =>
      nodes.mapM (nodeStages store isFinal target) >>= fun each =>
        decorate (each.flatten.map Prod.snd) (sidesOf each.flatten) >>= fun decorated =>
          .ok ⟨⟨decorated.1, decorated.2.pipe⟩, nodes.flatMap (nodeWarnings isFinal)⟩) := by
  cases target <;> rfl

/-- What a fragment that was assembled is made of. -/
theorem ofNodes_ok {nodes : List Node} {assembly : Assembly}
    (assembled : ofNodes store nodes isFinal target = .ok assembly) :
    ∃ each stages sides, nodes.mapM (nodeStages store isFinal target) = .ok each ∧
      decorate (each.flatten.map Prod.snd) (sidesOf each.flatten) = .ok (stages, sides) ∧
      assembly = ⟨⟨stages, sides.pipe⟩, nodes.flatMap (nodeWarnings isFinal)⟩ := by
  rw [ofNodes_eq] at assembled
  obtain ⟨_, _, assembled⟩ := bind_ok.mp assembled
  obtain ⟨each, made, assembled⟩ := bind_ok.mp assembled
  obtain ⟨⟨stages, sides⟩, decorated, assembled⟩ := bind_ok.mp assembled
  cases assembled
  exact ⟨each, stages, sides, made, decorated, rfl⟩

/-- The warnings about a fragment are those about its nodes, in order. -/
theorem warnings_of_ofNodes {nodes : List Node} {assembly : Assembly}
    (assembled : ofNodes store nodes isFinal target = .ok assembly) :
    assembly.warnings = nodes.flatMap (nodeWarnings isFinal) := by
  obtain ⟨_, _, _, _, _, rfl⟩ := ofNodes_ok assembled
  rfl

/-- Every node of a fragment has stages on both sides. -/
theorem nodeStages_of_ofNodes {nodes : List Node} {assembly : Assembly}
    (assembled : ofNodes store nodes isFinal target = .ok assembly) (member : node ∈ nodes) :
    ∃ sources sinks, sourceStages store isFinal target node = .ok sources ∧
      sinkStages store isFinal node = .ok sinks := by
  obtain ⟨each, _, _, made, _, _⟩ := ofNodes_ok assembled
  obtain ⟨_, _, own⟩ := exists_result_of_mapM_ok made member
  obtain ⟨sources, loaded, own⟩ := bind_ok.mp own
  obtain ⟨sinks, handled, _⟩ := bind_ok.mp own
  exact ⟨sources, sinks, loaded, handled⟩

/-- A dataset is loaded in the same way whatever the fragment is for. -/
theorem sourceStages_of_dataset (dataset : node.isDataset = true) :
    sourceStages store isFinal target node =
      store.datasetTemplates node.identifier >>= fun templates =>
        .ok (templateStages node .output templates) := by
  rw [sourceStages, if_pos dataset]
  rfl

/-- The source side of an artifact that a tool produces. -/
theorem sourceStages_of_tool (produced : node.isDataset = false) (byTool : node.kind.output ≠ "") :
    sourceStages store isFinal target node =
      store.toolTemplates node.kind.output .output node.identifier >>= fun templates =>
        if isFinal then exportStage node templates target >>= fun exported => .ok [exported]
        else store.datanodeType node.identifier >>= fun native =>
          .ok (conversionStage node native :: templateStages node .output templates) := by
  have filled : node.kind.output.isEmpty = false := by
    rw [← Bool.not_eq_true, String.isEmpty_iff]
    exact byTool
  rw [sourceStages, produced, filled]
  rfl

/-- An artifact with a producer has the templates with which its producer documents it. -/
theorem toolTemplates_of_sourceStages {sources : List Stage}
    (loaded : sourceStages store isFinal target node = .ok sources)
    (produced : node.isDataset = false) (byTool : node.kind.output ≠ "") :
    ∃ templates, store.toolTemplates node.kind.output .output node.identifier = .ok templates := by
  rw [sourceStages_of_tool produced byTool] at loaded
  obtain ⟨templates, known, _⟩ := bind_ok.mp loaded
  exact ⟨templates, known⟩

/-- The producer of an artifact in a fragment is a tool of the store, and documents the artifact. -/
theorem exists_templates_of_ofNodes {nodes : List Node} {assembly : Assembly}
    (assembled : ofNodes store nodes isFinal target = .ok assembly) (member : node ∈ nodes)
    (produced : node.isDataset = false) (byTool : node.kind.output ≠ "") :
    ∃ descriptor templates, store.descriptor node.kind.output = .ok descriptor ∧
      descriptor.templatesFor? .output node.identifier = some templates := by
  obtain ⟨sources, _, loaded, _⟩ := nodeStages_of_ofNodes assembled member
  obtain ⟨templates, known⟩ := toolTemplates_of_sourceStages loaded produced byTool
  obtain ⟨descriptor, described, documented⟩ := Store.toolTemplates_ok.mp known
  exact ⟨descriptor, templates, described, documented⟩

end Assembly

end WorkflowChain
