import WorkflowChain.Proofs.Compile.FragmentStages
import WorkflowChain.Proofs.Compile.OutputBinding

/-! # The final fragment

The last fragment of a workflow exports what the last tool produces. Two passes look up where the
file is: the tool step takes the first template of each artifact that the tool declares, and fails
if it has no location; the export takes the first location among the templates of the artifact, and
asks the tool that the graph has recorded as its producer. They agree, because that tool is the one
of the last step: among the children of a description the last production counts as its producer.
-/

namespace WorkflowChain

/-- The stage that exports the artifact in a slot to a location. -/
def Stage.exporting (slot location : String) (target : Option Target) : Stage :=
  .function .conversion slot Assembly.exportFunction
    ([("datanode", .text slot)]
      ++ (target.map fun target => ("documentation", target.encode)).toList
      ++ [("location", .text location)])

/-- A value shows a target: its backend, its location if it has one, and nothing else. -/
structure Target.ShownBy (target : Target) (value : Value) : Prop where
  backend : value.field? "backend" = some (.text target.backend)
  location : value.field? "location" = target.location.map .text
  others : ∀ key, key ≠ "backend" → key ≠ "location" → value.field? key = none

/-- A compilation ends with the export of the artifact in a slot, without a warning. -/
structure Compilation.Exports (compilation : Compilation) (settings : Settings)
    (slot location : String) : Prop where
  fragment : compilation.fragments.getLast? = some
    { fileName := settings.finalFragmentName
      fragment :=
        { stages := [.exporting slot location settings.target, wrapStage [slot]]
          pipe := "datanode2cuds | " ++ slot } }
  /-- The file is one of those of the last tool step, which only the final fragment follows. -/
  steps : ∃ earlier tool pipeline,
    compilation.chain.steps = earlier ++ [.tool tool, .pipeline pipeline] ∧
      location ∈ tool.inputs.outputs ∧
      pipeline.inputs.pipeline = FileRef.sibling settings.finalFragmentName
  warnings : compilation.warnings = []

/-! ## Documentation -/

/-- What is written of a target shows the target. -/
theorem Target.shownBy_encode (target : Target) : target.ShownBy target.encode := by
  obtain ⟨backend, location⟩ := target
  constructor
  case backend => rfl
  case location => cases location <;> rfl
  case others =>
    intro key notBackend notLocation
    rw [encode, Value.field?, entries, Table.lookup_cons, if_neg notBackend]
    cases location with
    | none => rfl
    | some location => exact (Table.lookup_cons ..).trans (if_neg notLocation)

/-- The stage that exports an artifact shows the target as its documentation, if there is one. -/
theorem Stage.documentation_exporting (slot location : String) (target : Option Target) :
    Option.Rel Target.ShownBy target
      (((exporting slot location target).config.lookup "configuration").bind
        (Value.field? "documentation")) := by
  cases target with
  | none => exact .none
  | some target => exact .some target.shownBy_encode

/-! ## Locations -/

namespace Descriptor

/-- A list of templates whose first one has a location gives that location. -/
theorem findSome?_downloadUrl? {templates : List Template} {location : String}
    (first : fileName? templates = some location) :
    templates.findSome? Template.downloadUrl? = some location := by
  cases templates with
  | nil => cases first
  | cons template rest =>
    have own : template.downloadUrl? = some location := first
    rw [List.findSome?_cons, own]

/-- Templates that are found for an artifact are among those of the side. -/
theorem mem_of_templatesFor? {descriptor : Descriptor} {direction : Direction} {artifact : String}
    {templates : List Template}
    (documented : descriptor.templatesFor? direction artifact = some templates) :
    ∃ key, (key, templates) ∈ descriptor.bindings direction := by
  unfold templatesFor? at documented
  dsimp only at documented
  split at documented
  next found =>
    cases documented
    exact ⟨_, Table.mem_of_lookup found⟩
  · exact ⟨_, Table.mem_of_lookup documented⟩

/-- The file of an artifact is among the output files of a tool, if these are known. -/
theorem exists_outputFileName {descriptor : Descriptor} {tool artifact : String}
    {templates : List Template} {files : List String}
    (declared : descriptor.outputFileNames tool = .ok files)
    (documented : descriptor.templatesFor? .output artifact = some templates) :
    ∃ location ∈ files, fileName? templates = some location := by
  obtain ⟨key, member⟩ := mem_of_templatesFor? documented
  obtain ⟨location, listed, named⟩ := exists_result_of_mapM_ok declared member
  dsimp only at named
  split at named
  next url first =>
    cases named
    exact ⟨_, listed, first⟩
  · cases named

end Descriptor

/-! ## The fragment of one result -/

namespace Assembly

variable {store : Store} {target : Option Target} {node : Node}

/-- An artifact is exported to the place that its first template gives. -/
theorem exportStage_eq {templates : List Template} {location : String}
    (first : Descriptor.fileName? templates = some location) :
    exportStage node templates target = .ok (.exporting (node.slot .output) location target) := by
  rw [exportStage, Descriptor.findSome?_downloadUrl? first]
  rfl

/-- A stage that exports an artifact is wrapped, as it is a conversion. -/
theorem wrapsFor_exporting (slot location : String) (target : Option Target) :
    wrapsFor [.exporting slot location target] [slot] = [wrapStage [slot]] := by
  have known : Stage.find? [.exporting slot location target] slot =
      some (.exporting slot location target) :=
    List.find?_cons_of_pos (decide_eq_true rfl)
  rw [wrapsFor, List.filterMap_cons_some known]
  rfl

/-- A pipe without sinks is that of the sources. -/
theorem pipeExpression_nil (sources : List String) :
    pipeExpression sources [] = Text.joinWith pipeSeparator sources := by
  by_cases empty : Text.joinWith pipeSeparator sources = ""
  · simp [pipeExpression, Text.joinWith, empty]
  · simp [pipeExpression, Text.joinWith, String.isEmpty_iff, empty]

/-- The artifact of a tool is exported from the place that its first template gives. -/
theorem sourceStages_eq {descriptor : Descriptor} {templates : List Template} {location : String}
    (produced : node.isDataset = false) (byTool : node.kind.output ≠ "")
    (described : store.descriptor node.kind.output = .ok descriptor)
    (documented : descriptor.templatesFor? .output node.identifier = some templates)
    (first : Descriptor.fileName? templates = some location) :
    sourceStages store true target node =
      .ok [.exporting (node.slot .output) location target] := by
  have known : store.toolTemplates node.kind.output .output node.identifier = .ok templates :=
    Store.toolTemplates_ok.mpr ⟨descriptor, described, documented⟩
  rw [sourceStages_of_tool produced byTool, known]
  change (exportStage node templates target >>= fun exported => Except.ok [exported]) = _
  rw [exportStage_eq first]
  rfl

/-- The final fragment over one artifact of a tool has the stage that exports it and the wrap
stage. -/
theorem fragment_of_result {assembly : Assembly} {location : String}
    (assembled : ofNodes store [node] true target = .ok assembly)
    (loaded : sourceStages store true target node =
      .ok [.exporting (node.slot .output) location target]) :
    assembly.fragment =
      { stages := [.exporting (node.slot .output) location target, wrapStage [node.slot .output]]
        pipe := "datanode2cuds | " ++ node.slot .output } := by
  obtain ⟨own, sources, sinks, parts⟩ := parts_of_ofNodes assembled
  -- With one source and no sinks the only adapter is the wrap stage.
  have unhandled : sinkStages store true node = .ok [] := rfl
  cases parts.loaded.symm.trans (mapM_ok.mpr (.cons loaded .nil))
  cases parts.handled.symm.trans (mapM_ok.mpr (.cons unhandled .nil))
  obtain rfl := List.perm_singleton.mp parts.order
  have wraps := wrapsFor_exporting (node.slot .output) location target
  have stages := parts.stages
  have pipe := parts.pipe
  change assembly.fragment.stages = [_] ++ (wrapsFor _ [node.slot .output] ++ [] ++ []) at stages
  change assembly.fragment.pipe = pipeExpression
    ((wrapsFor _ [node.slot .output]).map Stage.name ++ [node.slot .output]) [] at pipe
  rw [wraps] at stages pipe
  rw [pipeExpression_nil] at pipe
  calc assembly.fragment
    _ = ⟨assembly.fragment.stages, assembly.fragment.pipe⟩ := rfl
    _ = _ := by
      rw [stages, pipe]
      rfl

end Assembly

/-! ## The end of a compilation -/

/-- The last two items of a list. -/
theorem eq_append_pair {α : Type} {items : List α} {count : Nat} {first second : α}
    (length : items.length = count + 2) (penultimate : items[count]? = some first)
    (last : items[count + 1]? = some second) : ∃ earlier, items = earlier ++ [first, second] := by
  obtain ⟨inside, rfl⟩ := List.getElem?_eq_some_iff.mp penultimate
  obtain ⟨bound, rfl⟩ := List.getElem?_eq_some_iff.mp last
  refine ⟨items.take count, ?_⟩
  have rest : items.drop (count + 1 + 1) = [] := List.drop_eq_nil_iff.mpr (by omega)
  rw [← rest, List.getElem_cons_drop, List.getElem_cons_drop, List.take_append_drop]

theorem Node.slot_output (node : Node) :
    node.slot .output = "datanode_" ++ toString node.id ++ "_output" :=
  String.append_assoc

namespace Compilation

variable {store : Store} {settings : Settings} {root : Description} {compilation : Compilation}

/-- The only artifact of the last step is exported, if the graph has recorded the tool of that step
as its producer. -/
theorem Follows.exports {graph : Graph} {last output : Node}
    (follows : compilation.Follows store settings graph)
    (known : graph.steps.getLast? = some last) (outputs : graph.outputsOf last = [output])
    (producer : output.kind.output = last.identifier) (filled : last.identifier ≠ "")
    (other : last.identifier ≠ datasetKind) :
    ∃ descriptor location, store.descriptor last.identifier = .ok descriptor ∧
      descriptor.outputFileName? output.identifier = some location ∧
      compilation.Exports settings (output.slot .output) location := by
  have nonempty : graph.steps ≠ [] := by
    intro none
    rw [none] at known
    cases known
  have produced : output.isDataset = false := by
    rw [Node.isDataset, producer]
    exact decide_eq_false other
  have byTool : output.kind.output ≠ "" := producer ▸ filled
  obtain ⟨before, counted⟩ := Nat.exists_eq_succ_of_ne_zero (mt List.length_eq_zero_iff.mp nonempty)
  have place : graph.steps[before]? = some last := by
    rw [← known, List.getLast?_eq_getElem?, counted, Nat.succ_sub_one]
  obtain ⟨_, descriptor, tool, step⟩ := follows.step _ _ place
  obtain ⟨assembly, final⟩ := follows.final _ known
  have assembled := final.assembled
  rw [outputs] at assembled
  obtain ⟨found, templates, described, documented⟩ :=
    Assembly.exists_templates_of_ofNodes assembled List.mem_cons_self produced byTool
  -- The fragment and the tool step ask the same tool.
  rw [producer] at described
  obtain rfl : descriptor = found := Except.ok.inj (step.described.symm.trans described)
  obtain ⟨location, listed, first⟩ :=
    Descriptor.exists_outputFileName step.runs.outputs documented
  have loaded : Assembly.sourceStages store true settings.target output =
      .ok [.exporting (output.slot .output) location settings.target] :=
    Assembly.sourceStages_eq produced byTool (producer.symm ▸ described) documented first
  obtain ⟨steps, fragments⟩ := follows.counts nonempty
  refine ⟨descriptor, location, described, ?_, ?_⟩
  · rw [Descriptor.outputFileName?, documented, Option.bind_some, first]
  constructor
  case fragment =>
    rw [List.getLast?_eq_getElem?, fragments, Nat.add_sub_cancel, final.fragment,
      Assembly.fragment_of_result assembled loaded]
  case steps =>
    have penultimate := step.tool
    have ultimate := final.pipeline
    rw [counted] at steps ultimate
    obtain ⟨earlier, split⟩ := eq_append_pair steps penultimate ultimate
    exact ⟨earlier, tool, _, split, listed, rfl⟩
  case warnings =>
    rw [follows.warnings, known, Option.toList_some, List.flatMap_singleton, outputs,
      List.flatMap_singleton, Assembly.nodeWarnings, produced]
    rfl

/-- **The end of a chain.** The result of the last production is exported from the place that the
tool of that production declares first for it. -/
theorem exports_of_compile (compiled : compile store settings root = .ok compilation)
    (nonempty : root.productions ≠ [])
    (named : ∀ position description, root.at? position = some description →
      description.identifier ≠ some datasetKind) :
    ∃ above index result tool artifact identifier descriptor location,
      root.productions.getLast? = some (above ++ [index]) ∧
      root.at? above = some result ∧ result.identifier = some artifact ∧
      root.at? (above ++ [index]) = some tool ∧ tool.identifier = some identifier ∧
      store.descriptor identifier = .ok descriptor ∧
      descriptor.outputFileName? artifact = some location ∧
      compilation.Exports settings ("datanode_" ++ toString (root.number above) ++ "_output")
        location := by
  obtain ⟨graph, built, follows⟩ := compile_ok compiled
  have laid := Graph.nodes_of_build built
  have last := List.getLast?_eq_some_getLast nonempty
  obtain ⟨above, index, split⟩ := Description.exists_above_of_mem_productions
    (List.getLast_mem nonempty)
  rw [split] at last
  have member := root.productions_subset (List.mem_of_getLast? last)
  obtain ⟨tool, located⟩ := Description.mem_positions.mp member
  obtain ⟨result, reached, chosen⟩ := Description.exists_parent located
  obtain ⟨identified, filled⟩ := Graph.named_of_build built located
  have known : graph.steps.getLast? = some (root.nodeAt 0 (above ++ [index])) := by
    rw [Graph.steps_eq laid, List.getLast?_map, last, Option.map_some]
  have outputs : graph.outputsOf (root.nodeAt 0 (above ++ [index])) = [root.nodeAt 0 above] := by
    rw [Graph.outputsOf_production laid (List.mem_of_getLast? last), List.dropLast_concat]
  have identifier : (root.nodeAt 0 (above ++ [index])).identifier = tool.name := by
    rw [Description.nodeAt, Description.descriptionAt_eq located]
  have producer : (root.nodeAt 0 above).kind.output = tool.name := by
    rw [Description.nodeAt, Description.descriptionAt_eq reached]
    exact Description.producer_of_last last reached chosen
  have other : tool.name ≠ datasetKind := by
    rintro same
    exact named _ _ located (identified.trans (congrArg some same))
  rw [← identifier] at producer filled other
  obtain ⟨descriptor, location, described, file, exports⟩ :=
    follows.exports known outputs producer filled other
  have artifact : (root.nodeAt 0 above).identifier = result.name := by
    rw [Description.nodeAt, Description.descriptionAt_eq reached]
  have slot : (root.nodeAt 0 above).slot .output =
      "datanode_" ++ toString (root.number above) ++ "_output" := by
    rw [Node.slot_output, Description.nodeAt, Nat.zero_add]
  rw [identifier] at described
  rw [artifact] at file
  rw [slot] at exports
  exact ⟨above, index, result, tool, _, _, descriptor, location, last, reached,
    (Graph.named_of_build built reached).1, located, identified, described, file, exports⟩

/-- The field of the workflow with two tools is exported. -/
theorem exports_twoTools :
    ∃ compilation, compile .twoTools {} .twoTools = .ok compilation ∧
      compilation.Exports {} "datanode_5_output" "field.vtk" := by
  obtain ⟨compilation, compiled⟩ := compile_twoTools
  have named : ∀ position description, Description.twoTools.at? position = some description →
      description.identifier ≠ some datasetKind := by
    intro position description found
    have each : ∀ position ∈ Description.twoTools.positions,
        (Description.twoTools.at? position).bind Description.identifier ≠ some datasetKind := by
      decide
    have own := each position (Description.mem_positions.mpr ⟨_, found⟩)
    rwa [found] at own
  obtain ⟨above, index, _, _, _, _, _, _, last, reached, artifact, located, identifier, described,
    file, exports⟩ := exports_of_compile compiled (by decide) named
  have place : [] ++ [0] = above ++ [index] := Option.some.inj last
  obtain ⟨rfl, same⟩ := List.append_inj' place rfl
  cases same
  cases reached
  cases artifact
  cases located
  cases identifier
  cases described
  cases file
  exact ⟨compilation, compiled, exports⟩

end Compilation

end WorkflowChain
