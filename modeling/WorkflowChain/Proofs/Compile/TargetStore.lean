import WorkflowChain.Proofs.Compile.FinalFragment
import WorkflowChain.Proofs.Pipeline.RelatedStages

/-! # What the target store reaches

The target is checked, and then it is only written into the stages that export artifacts, as an
entry of what configures their function. As these stages are named after slots, which no adapter is,
and as decorating does not read that entry, two compilations with different targets go the same way
and differ in this entry alone.
-/

namespace WorkflowChain

/-! ## Compilations that differ in documentation -/

/-- Stages of two final fragments. A stage that exports an artifact from one of the slots has an entry
for the documentation of the artifact if there is a target; any other stage is the same. -/
inductive Stage.AlikeBut (slots : List String) (target partner : Option Target) :
    Stage → Stage → Prop where
  | exported {slot : String} (listed : slot ∈ slots) (location : String) :
      AlikeBut slots target partner (.exporting slot location target)
        (.exporting slot location partner)
  | same {stage : Stage} (unlisted : stage.name ∉ slots) : AlikeBut slots target partner stage stage

/-- Final fragments that export artifacts from slots are the same but for their documentation. -/
structure Fragment.AlikeBut (slots : List String) (target partner : Option Target)
    (fragment other : Fragment) : Prop where
  pipe : fragment.pipe = other.pipe
  stages : List.Forall₂ (Stage.AlikeBut slots target partner) fragment.stages other.stages

/-- The slots of artifacts that tools produce, from which a final fragment exports them. -/
def Assembly.exportedSlots (nodes : List Node) : List String :=
  (nodes.filter fun node => !node.isDataset && !node.kind.output.isEmpty).map (Node.slot · .output)

/-- The slots from which the last step of a graph exports artifacts. -/
def Graph.exportedSlots (graph : Graph) : List String :=
  Assembly.exportedSlots (graph.steps.getLast?.toList.flatMap graph.outputsOf)

/-- Compilations of a graph with different targets differ in the documentation of what is exported.
-/
structure Compilation.AlikeBut (graph : Graph) (target partner : Option Target)
    (compilation other : Compilation) : Prop where
  chainFileName : compilation.chainFileName = other.chainFileName
  chain : compilation.chain = other.chain
  warnings : compilation.warnings = other.warnings
  names : compilation.fragments.map NamedFragment.fileName =
    other.fragments.map NamedFragment.fileName
  steps : compilation.fragments.dropLast = other.fragments.dropLast
  final : Option.Rel (Fragment.AlikeBut graph.exportedSlots target partner)
    (compilation.fragments.getLast?.map NamedFragment.fragment)
    (other.fragments.getLast?.map NamedFragment.fragment)
  /-- What is exported has its stage in the final fragment. -/
  exported : ∀ named, compilation.fragments.getLast? = some named →
    graph.exportedSlots ⊆ named.fragment.stages.map Stage.name

/-! ## Stages that export -/

theorem Stage.location?_exporting (slot location : String) (target : Option Target) :
    (Stage.exporting slot location target).location? = some location := by
  cases target <;> rfl

theorem extractionLabel?_exporting (slot location : String) (target : Option Target) :
    extractionLabel? (.exporting slot location target) = none := by
  rfl

/-- A target with a supported backend passes the check, and so does none. -/
theorem Target.check_of_supported {target : Option Target}
    (supported : ∀ used ∈ target, used.backend ∈ Target.backends) :
    target.elim (.ok ()) Target.check = .ok () := by
  cases target with
  | none => rfl
  | some used => exact if_pos (supported used rfl)

namespace Assembly

variable {store : Store} {nodes : List Node} {node : Node} {target partner : Option Target}

/-- The slots that are exported are those of artifacts that tools produce. -/
theorem mem_exportedSlots {slot : String} :
    slot ∈ exportedSlots nodes ↔ ∃ node ∈ nodes, node.isDataset = false ∧ node.kind.output ≠ "" ∧
      node.slot .output = slot := by
  simp [exportedSlots, and_assoc]

/-- Decorating does not see the documentation of what is exported. -/
theorem readAlike_exportedSlots (nodes : List Node) (target partner : Option Target) :
    ReadAlike (Stage.AlikeBut (exportedSlots nodes) target partner) := by
  constructor
  case name =>
    intro _ _ related
    cases related <;> rfl
  case kind =>
    intro _ _ related
    cases related <;> rfl
  case location =>
    intro _ _ related
    cases related with
    | exported => rw [Stage.location?_exporting, Stage.location?_exporting]
    | same => rfl
  case label =>
    intro _ _ related
    cases related with
    | exported => rw [extractionLabel?_exporting, extractionLabel?_exporting]
    | same => rfl
  case adapter =>
    intro stage reserved
    apply Stage.AlikeBut.same
    intro listed
    obtain ⟨node, _, _, _, same⟩ := mem_exportedSlots.mp listed
    have named : node.StageName .output (node.slot .output) := .plain .output
    exact named.not_isAdapterName (same ▸ reserved)

/-! ## Two assemblies -/

/-- An artifact is exported to the same place for both targets, and only the documentation differs.
-/
theorem exportStage_alike {slots : List String} (listed : node.slot .output ∈ slots)
    (templates : List Template) :
    RunsAlike Eq (Stage.AlikeBut slots target partner) (exportStage node templates target)
      (exportStage node templates partner) := by
  unfold exportStage
  cases templates.findSome? Template.downloadUrl? with
  | none => exact .error rfl
  | some location => exact .ok (.exported listed location)

/-- Without an artifact of a tool there is nothing to document. -/
theorem sourceStages_eq_of_plain (plain : node.isDataset = true ∨ node.kind.output = "") :
    sourceStages store true target node = sourceStages store true partner node := by
  unfold sourceStages
  by_cases dataset : node.isDataset = true
  · rw [if_pos dataset, if_pos dataset]
  · have unproduced : node.kind.output.isEmpty = true := by simpa [dataset] using plain
    rw [if_neg dataset, if_neg dataset, if_pos unproduced, if_pos unproduced]

variable (alone : ∀ node ∈ nodes, ∀ other ∈ nodes, node.id = other.id → node = other)

include alone

/-- The stages of other nodes are not named after the slots that are exported. -/
theorem notMem_exportedSlots (used : node ∈ nodes)
    (plain : node.isDataset = true ∨ node.kind.output = "") {sources : List Stage} {stage : Stage}
    (loaded : sourceStages store true target node = .ok sources) (member : stage ∈ sources) :
    stage.name ∉ exportedSlots nodes := by
  intro listed
  obtain ⟨other, present, produced, byTool, same⟩ := mem_exportedSlots.mp listed
  have named := (mem_sourceStages loaded member).2.1
  have again : other.StageName .output (other.slot .output) := .plain .output
  rw [same] at again
  obtain rfl := alone node used other present (named.unique again).1
  rcases plain with dataset | unproduced
  · rw [dataset] at produced
    cases produced
  · exact byTool unproduced

theorem sourceStages_alike_of_targets (used : node ∈ nodes) :
    RunsAlike Eq (List.Forall₂ (Stage.AlikeBut (exportedSlots nodes) target partner))
      (sourceStages store true target node) (sourceStages store true partner node) := by
  by_cases plain : node.isDataset = true ∨ node.kind.output = ""
  · have same : sourceStages store true partner node = sourceStages store true target node :=
      sourceStages_eq_of_plain plain
    rw [same]
    cases loaded : sourceStages store true target node with
    | error failure => exact .error rfl
    | ok sources =>
      refine .ok (List.forall₂_same.mpr fun stage member => .same ?_)
      exact notMem_exportedSlots alone used plain loaded member
  · rw [not_or, Bool.not_eq_true] at plain
    have listed : node.slot .output ∈ exportedSlots nodes :=
      mem_exportedSlots.mpr ⟨node, used, plain.1, plain.2, rfl⟩
    rw [sourceStages_of_tool plain.1 plain.2, sourceStages_of_tool plain.1 plain.2]
    refine (RunsAlike.refl (fun _ => rfl) _).bind_eq fun templates => ?_
    exact (exportStage_alike listed templates).bind fun _ _ own => .ok (.cons own .nil)

/-- Stages on one side that are related. -/
def PlacedAlike (related : Stage → Stage → Prop) (placed other : Direction × Stage) : Prop :=
  placed.1 = other.1 ∧ related placed.2 other.2

theorem nodeStages_alike_of_targets (used : node ∈ nodes) :
    RunsAlike Eq
      (List.Forall₂ (PlacedAlike (Stage.AlikeBut (exportedSlots nodes) target partner)))
      (nodeStages store true target node) (nodeStages store true partner node) := by
  have unhandled : sinkStages store true node = .ok [] := rfl
  unfold nodeStages
  rw [unhandled]
  refine (sourceStages_alike_of_targets alone used).bind fun _ _ each => .ok ?_
  refine List.rel_append (List.rel_map ?_ each) .nil
  exact fun _ _ own => ⟨rfl, own⟩

omit alone in

/-- Stages that are alike have the same names on both sides. -/
theorem sidesOf_eq {related : Stage → Stage → Prop} {placed others : List (Direction × Stage)}
    (named : ∀ stage other, related stage other → stage.name = other.name)
    (each : List.Forall₂ (PlacedAlike related) placed others) : sidesOf placed = sidesOf others := by
  induction each with
  | nil => rfl
  | @cons first second rest further own _ ih =>
    obtain ⟨side, stage⟩ := first
    obtain ⟨_, other⟩ := second
    obtain ⟨rfl, own⟩ := own
    have names : stage.name = other.name := named _ _ own
    change sidesOf ([(side, stage)] ++ rest) = sidesOf ([(side, other)] ++ further)
    rw [sidesOf_append, sidesOf_append, ih]
    cases side <;> simp [sidesOf, names]

omit alone in
/-- What is exported has its stage in the fragment. -/
theorem exportedSlots_subset {assembly : Assembly}
    (assembled : ofNodes store nodes true target = .ok assembly) :
    exportedSlots nodes ⊆ assembly.fragment.stages.map Stage.name := by
  intro slot listed
  obtain ⟨node, used, produced, byTool, rfl⟩ := mem_exportedSlots.mp listed
  obtain ⟨own, sources, sinks, parts⟩ := parts_of_ofNodes assembled
  obtain ⟨group, known, loaded⟩ := exists_result_of_mapM_ok parts.loaded used
  rw [sourceStages_of_tool produced byTool] at loaded
  obtain ⟨templates, _, loaded⟩ := bind_ok.mp loaded
  obtain ⟨exported, made, loaded⟩ := bind_ok.mp loaded
  cases loaded
  have source : exported ∈ sources.flatten :=
    List.mem_flatten.mpr ⟨_, known, List.mem_cons_self⟩
  have listed := parts.order.mem_iff.mpr (List.mem_append_left _ source)
  obtain ⟨_, rfl⟩ := exportStage_ok made
  rw [parts.stages]
  exact List.mem_map.mpr ⟨_, List.mem_append_left _ listed, rfl⟩

/-- Assemblies of final fragments that differ in the documentation of what is exported. -/
structure AlikeBut (slots : List String) (target partner : Option Target)
    (assembly other : Assembly) : Prop where
  fragment : assembly.fragment.AlikeBut slots target partner other.fragment
  warnings : assembly.warnings = other.warnings

variable (supported : ∀ used ∈ target, used.backend ∈ Target.backends)
  (usable : ∀ used ∈ partner, used.backend ∈ Target.backends)

include supported usable

/-- Final fragments are alike for both targets. -/
theorem ofNodes_alike_of_targets :
    RunsAlike Eq (AlikeBut (exportedSlots nodes) target partner) (ofNodes store nodes true target)
      (ofNodes store nodes true partner) := by
  have readAlike := readAlike_exportedSlots nodes target partner
  have each : RunsAlike Eq (List.Forall₂ (List.Forall₂
        (PlacedAlike (Stage.AlikeBut (exportedSlots nodes) target partner))))
      (nodes.mapM (nodeStages store true target)) (nodes.mapM (nodeStages store true partner)) :=
    .mapM (List.forall₂_same.mpr fun _ used => nodeStages_alike_of_targets alone used)
  rw [ofNodes_eq, ofNodes_eq, Target.check_of_supported supported, Target.check_of_supported usable]
  refine each.bind fun own others related => ?_
  have placed := List.rel_flatten related
  have stages := List.rel_map (fun _ _ alike => alike.2) placed
  rw [sidesOf_eq readAlike.name placed]
  refine (readAlike.decorate_alike stages _).bind fun _ _ decorated => .ok ?_
  exact ⟨⟨congrArg PipeSides.pipe decorated.sides, decorated.stages⟩, rfl⟩

end Assembly

/-! ## Two compilations -/

/-- The slots that a graph exports are those of what its last step produces. -/
theorem Graph.exportedSlots_eq {graph : Graph} {last : Node}
    (known : graph.steps.getLast? = some last) :
    graph.exportedSlots = Assembly.exportedSlots (graph.outputsOf last) := by
  rw [exportedSlots, known, Option.toList_some, List.flatMap_singleton]

namespace Compilation

variable {store : Store} {settings : Settings} {graph : Graph} {target partner : Option Target}

/-- Parts with final fragments that differ in the documentation of what is exported. -/
structure Part.AlikeBut (slots : List String) (target partner : Option Target)
    (part other : Part) : Prop where
  fileName : part.fragment.fileName = other.fragment.fileName
  fragment : part.fragment.fragment.AlikeBut slots target partner other.fragment.fragment
  steps : part.steps = other.steps
  warnings : part.warnings = other.warnings

/-- The steps of a workflow are compiled without the target. -/
theorem stepParts_eq_of_target (target : Option Target) (place : Nat) (nodes : List Node) :
    stepParts store { settings with target } graph place nodes =
      stepParts store settings graph place nodes := by
  induction nodes generalizing place with
  | nil => rfl
  | cons node rest ih =>
    have own : stepPart store { settings with target } graph place node =
        stepPart store settings graph place node := rfl
    rw [stepParts, stepParts, own, ih]

section Supported

variable
  (alone : ∀ node ∈ graph.nodes, ∀ other ∈ graph.nodes, node.id = other.id → node = other)
  (supported : ∀ used ∈ target, used.backend ∈ Target.backends)
  (usable : ∀ used ∈ partner, used.backend ∈ Target.backends)

include alone supported usable

theorem finalPart_alike_of_targets (last : Node) :
    RunsAlike Eq (Part.AlikeBut (Assembly.exportedSlots (graph.outputsOf last)) target partner)
      (finalPart store { settings with target } graph last)
      (finalPart store { settings with target := partner } graph last) := by
  have apart : ∀ node ∈ graph.outputsOf last, ∀ other ∈ graph.outputsOf last,
      node.id = other.id → node = other := by
    intro node used other present
    exact alone node (Graph.mem_nodes_of_mem_outputsOf used) other
      (Graph.mem_nodes_of_mem_outputsOf present)
  refine (Assembly.ofNodes_alike_of_targets apart supported usable).bind fun _ _ alike => .ok ?_
  exact ⟨rfl, alike.fragment, rfl, alike.warnings⟩

/-- Compilations of one graph are alike for both targets. -/
theorem ofGraph_alike_of_targets :
    RunsAlike Eq (Compilation.AlikeBut graph target partner)
      (ofGraph store { settings with target } graph)
      (ofGraph store { settings with target := partner } graph) := by
  unfold ofGraph
  rw [stepParts_eq_of_target target, stepParts_eq_of_target partner]
  cases known : graph.steps.getLast? with
  | none =>
    rw [List.getLast?_eq_none_iff.mp known]
    exact .ok ⟨rfl, rfl, rfl, rfl, rfl, .none, nofun⟩
  | some last =>
    refine (RunsAlike.refl (fun _ => rfl) _).bind_eq fun parts => ?_
    refine (finalPart_alike_of_targets alone supported usable last).and_ran.bind
      fun part other ⟨alike, ended⟩ => .ok ?_
    have slots := Graph.exportedSlots_eq known
    constructor
    case chainFileName => rfl
    case chain =>
      change Chain.mk ((parts ++ [part]).flatMap Part.steps) =
        Chain.mk ((parts ++ [other]).flatMap Part.steps)
      rw [List.flatMap_append, List.flatMap_append, List.flatMap_singleton, List.flatMap_singleton,
        alike.steps]
    case warnings =>
      change (parts ++ [part]).flatMap Part.warnings = (parts ++ [other]).flatMap Part.warnings
      rw [List.flatMap_append, List.flatMap_append, List.flatMap_singleton, List.flatMap_singleton,
        alike.warnings]
    case names =>
      rw [ofParts_append_fragments, ofParts_append_fragments, List.map_append, List.map_append,
        List.map_singleton, List.map_singleton, alike.fileName]
    case steps =>
      rw [ofParts_append_fragments, ofParts_append_fragments, List.dropLast_concat,
        List.dropLast_concat]
    case final =>
      rw [ofParts_append_fragments, ofParts_append_fragments, List.getLast?_concat,
        List.getLast?_concat, slots]
      exact .some alike.fragment
    case exported =>
      intro named found
      obtain ⟨assembly, assembled, rfl⟩ := finalPart_ok ended
      rw [ofParts_append_fragments, List.getLast?_concat] at found
      obtain rfl := Option.some.inj found
      rw [slots]
      exact Assembly.exportedSlots_subset assembled

end Supported

end Compilation

/-- **What the target store reaches.** With and without a target, and with another one, a compilation
fails for the same reason, or gives the same but for the documentation of what is exported. -/
theorem compile_alike_of_targets (store : Store) (settings : Settings) (root : Description)
    {target partner : Option Target}
    (supported : ∀ used ∈ target, used.backend ∈ Target.backends)
    (usable : ∀ used ∈ partner, used.backend ∈ Target.backends) :
    RunsAlike Eq
      (fun compilation other => ∃ graph, Graph.build root settings.maxDepth = .ok graph ∧
        Compilation.AlikeBut graph target partner compilation other)
      (compile store { settings with target } root)
      (compile store { settings with target := partner } root) := by
  rw [Compilation.compile_eq, Compilation.compile_eq, Target.check_of_supported supported,
    Target.check_of_supported usable]
  dsimp only
  cases built : Graph.build root settings.maxDepth with
  | error reason => exact .error rfl
  | ok graph =>
    have laid := Graph.nodes_of_build built
    have alone : ∀ node ∈ graph.nodes, ∀ other ∈ graph.nodes, node.id = other.id → node = other :=
      fun _ member _ listed => Graph.eq_of_id_eq laid member listed
    exact (Compilation.ofGraph_alike_of_targets alone supported usable).imp
      fun _ _ alike => ⟨graph, rfl, alike⟩

/-- The workflow with two tools, with its field documented nowhere and in a store. -/
theorem compile_alike_of_targets_twoTools :
    ∃ compilation other graph, compile .twoTools {} .twoTools = .ok compilation ∧
      compile .twoTools { target := some ⟨"fuseki", some "fields"⟩ } .twoTools = .ok other ∧
      Compilation.AlikeBut graph none (some ⟨"fuseki", some "fields"⟩) compilation other ∧
      graph.exportedSlots = ["datanode_5_output"] := by
  have supported : ∀ used ∈ (none : Option Target), used.backend ∈ Target.backends := nofun
  have usable : ∀ used ∈ some (⟨"fuseki", some "fields"⟩ : Target),
      used.backend ∈ Target.backends := by
    rintro used ⟨⟩
    decide
  have alike := compile_alike_of_targets .twoTools {} .twoTools supported usable
  obtain ⟨compilation, compiled⟩ := Compilation.compile_twoTools
  obtain ⟨other, documented⟩ : ∃ other,
      compile .twoTools { target := some ⟨"fuseki", some "fields"⟩ } .twoTools = .ok other :=
    ⟨_, rfl⟩
  rw [compiled, documented] at alike
  cases alike with
  | ok related =>
    obtain ⟨graph, built, related⟩ := related
    refine ⟨compilation, other, graph, compiled, documented, related, ?_⟩
    cases built
    rfl

end WorkflowChain
