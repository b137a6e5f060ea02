import WorkflowChain.Proofs.Compile.ChainLayout
import WorkflowChain.Proofs.Compile.FragmentStages

/-! # Stages never share a name

A fragment is refused if two of its stages share a name. That never happens to nodes with different
numbers: names on the two sides and of different nodes differ (`Node.StageName.unique`), and within
one side of a node the templates are told apart by their places. The fragments of a workflow are
made of such nodes, so that no workflow is refused for this reason.
-/

namespace WorkflowChain

/-! ## Runs without conflict -/

/-- A run does not fail because two stages share a name. -/
def Unconflicted {α : Type} (run : Except Failure α) : Prop :=
  ∀ name, run ≠ .error (.conflict name)

namespace Unconflicted

variable {α β : Type}

theorem ok (value : α) : Unconflicted (.ok value) :=
  nofun

/-- What runs in two parts without a conflict runs without one as a whole. -/
theorem bind {run : Except Failure α} {next : α → Except Failure β} (first : Unconflicted run)
    (later : ∀ value, run = .ok value → Unconflicted (next value)) :
    Unconflicted (run >>= next) := by
  cases run with
  | error failure =>
    intro name same
    exact first name (congrArg Except.error (Except.error.inj same))
  | ok value => exact later value rfl

theorem mapM {run : α → Except Failure β} {items : List α}
    (each : ∀ item ∈ items, Unconflicted (run item)) : Unconflicted (items.mapM run) := by
  induction items with
  | nil => exact ok []
  | cons item rest ih =>
    have ⟨own, others⟩ := List.forall_mem_cons.mp each
    rw [List.mapM_cons]
    exact own.bind fun _ _ => (ih others).bind fun _ _ => ok _

end Unconflicted

namespace Store

variable (store : Store)

/-- A resolution fails for want of an entry only. -/
theorem unconflicted_resolve (identifier context : String) :
    Unconflicted (store.resolve identifier context) := by
  unfold resolve
  split
  · exact .ok _
  · split
    · exact .ok _
    · nofun

theorem unconflicted_descriptor (tool : String) : Unconflicted (store.descriptor tool) := by
  refine (store.unconflicted_resolve _ _).bind fun entry _ => ?_
  cases entry <;> nofun

theorem unconflicted_toolTemplates (tool : String) (direction : Direction) (artifact : String) :
    Unconflicted (store.toolTemplates tool direction artifact) := by
  refine (store.unconflicted_descriptor tool).bind fun descriptor _ => ?_
  split <;> nofun

theorem unconflicted_datasetTemplates (dataset : String) :
    Unconflicted (store.datasetTemplates dataset) := by
  refine (store.unconflicted_resolve _ _).bind fun entry _ => ?_
  cases entry <;> nofun

theorem unconflicted_datanodeType (artifact : String) :
    Unconflicted (store.datanodeType artifact) := by
  refine (store.unconflicted_resolve _ _).bind fun entry _ => ?_
  refine Unconflicted.bind (by cases entry <;> nofun) fun descriptor _ => ?_
  split <;> nofun

end Store

namespace Assembly

variable {store : Store} {isFinal : Bool} {target : Option Target} {node : Node}

/-! ## The names of one node -/

/-- The stages of templates are numbered, but for the last, which has the name of the slot. -/
theorem map_name_templateStages (direction : Direction) (templates : List Template) :
    (templateStages node direction templates).map Stage.name =
      (List.range templates.length).map fun place =>
        if place + 1 = templates.length then node.slot direction
        else node.slot direction ++ "_" ++ toString place := by
  apply List.ext_getElem
  · simp [templateStages]
  · intro place _ _
    simp [templateStages, Stage.ofTemplate]

theorem slot_ne_numbered (slot : String) (place : Nat) : slot ≠ slot ++ "_" ++ toString place := by
  intro same
  have letters := congrArg String.length same
  simp only [String.length_append] at letters
  have : "_".length = 1 := rfl
  omega

/-- The stages of one list of templates have different names. -/
theorem nodup_templateStages (direction : Direction) (templates : List Template) :
    ((templateStages node direction templates).map Stage.name).Nodup := by
  rw [map_name_templateStages]
  refine List.nodup_range.map_on ?_
  intro place _ other _ same
  by_cases last : place + 1 = templates.length
  · by_cases again : other + 1 = templates.length
    · omega
    · rw [if_pos last, if_neg again] at same
      exact absurd same (slot_ne_numbered _ _)
  · by_cases again : other + 1 = templates.length
    · rw [if_neg last, if_pos again] at same
      exact absurd same.symm (slot_ne_numbered _ _)
    · rw [if_neg last, if_neg again] at same
      exact toString_nat_injective ((String.append_right_inj _).mp same)

/-- A conversion stage has another name than the templates. -/
theorem conversionStage_notMem (native : String) (templates : List Template) :
    (conversionStage node native).name ∉
      (templateStages node .output templates).map Stage.name := by
  rw [map_name_templateStages]
  intro member
  obtain ⟨place, _, same⟩ := List.mem_map.mp member
  change _ = node.slot .output ++ "_convert" at same
  split at same
  · exact absurd (congrArg String.length same) (by simp)
  · -- A number does not begin with a letter.
    rw [String.append_assoc, String.append_right_inj] at same
    have number : toString place = "convert" := (String.append_right_inj "_").mp same
    have digits : ∀ c ∈ Nat.toDigits 10 place, c.isDigit = true :=
      fun _ member => Nat.isDigit_of_mem_toDigits (by decide) (by decide) member
    rw [← Nat.toList_repr, ← Nat.toString_eq_repr, number] at digits
    exact absurd (digits 'c' (by decide)) (by decide)

theorem nodup_sourceStages {sources : List Stage}
    (loaded : sourceStages store isFinal target node = .ok sources) :
    (sources.map Stage.name).Nodup := by
  unfold sourceStages at loaded
  split at loaded
  · obtain ⟨templates, _, loaded⟩ := bind_ok.mp loaded
    cases loaded
    exact nodup_templateStages .output templates
  · split at loaded
    · cases loaded
      exact List.nodup_nil
    · obtain ⟨templates, _, loaded⟩ := bind_ok.mp loaded
      split at loaded
      · obtain ⟨exported, _, loaded⟩ := bind_ok.mp loaded
        cases loaded
        exact List.nodup_singleton _
      · obtain ⟨native, _, loaded⟩ := bind_ok.mp loaded
        cases loaded
        exact List.nodup_cons.mpr
          ⟨conversionStage_notMem native templates, nodup_templateStages .output templates⟩

theorem nodup_sinkStages {sinks : List Stage}
    (handled : sinkStages store isFinal node = .ok sinks) : (sinks.map Stage.name).Nodup := by
  unfold sinkStages at handled
  split at handled
  · cases handled
    exact List.nodup_nil
  · obtain ⟨templates, _, handled⟩ := bind_ok.mp handled
    cases handled
    exact nodup_templateStages .input templates

/-! ## The names of many nodes -/

/-- Stages on one side of nodes with different numbers have different names if those of each node
have. -/
theorem nodup_flatten {direction : Direction} {run : Node → Except Failure (List Stage)}
    {nodes : List Node} {groups : List (List Stage)} (ran : nodes.mapM run = .ok groups)
    (each : ∀ node stages, run node = .ok stages → (stages.map Stage.name).Nodup)
    (named : ∀ node stages, run node = .ok stages →
      ∀ stage ∈ stages, Node.StageName node direction stage.name)
    (distinct : (nodes.map Node.id).Nodup) : (groups.flatten.map Stage.name).Nodup := by
  rw [mapM_ok] at ran
  induction ran with
  | nil => exact List.nodup_nil
  | cons own later ih =>
    rw [List.map_cons, List.nodup_cons] at distinct
    rw [List.flatten_cons, List.map_append]
    refine (each _ _ own).append (ih distinct.2) ?_
    intro name here there
    obtain ⟨stage, member, rfl⟩ := List.mem_map.mp here
    obtain ⟨other, listed, same⟩ := List.mem_map.mp there
    obtain ⟨group, known, inside⟩ := List.mem_flatten.mp listed
    obtain ⟨node, used, made⟩ := exists_item_of_mapM_ok (mapM_ok.mpr later) known
    have again := named node group made other inside
    rw [same] at again
    -- The name tells the node, whose number would stand twice in the list.
    have numbers := ((named _ _ own stage member).unique again).1
    exact distinct.1 (List.mem_map.mpr ⟨node, used, numbers.symm⟩)

/-- **The names of a fragment.** The stages of nodes with different numbers have different names. -/
theorem nodup_nodeStages {nodes : List Node} {each : List (List (Direction × Stage))}
    (made : nodes.mapM (nodeStages store isFinal target) = .ok each)
    (distinct : (nodes.map Node.id).Nodup) :
    ((each.flatten.map Prod.snd).map Stage.name).Nodup := by
  obtain ⟨sources, sinks, loaded, handled, order, _⟩ := mapM_nodeStages_ok made
  have onSources := nodup_flatten loaded (fun _ _ => nodup_sourceStages)
    (fun _ _ own _ member => (mem_sourceStages own member).2.1) distinct
  have onSinks := nodup_flatten handled (fun _ _ => nodup_sinkStages)
    (fun _ _ own _ member => (mem_sinkStages own member).1) distinct
  rw [(order.map Stage.name).nodup_iff, List.map_append]
  refine onSources.append onSinks ?_
  -- No name is on both sides, as a name tells its side.
  intro name source sink
  obtain ⟨stage, member, rfl⟩ := List.mem_map.mp source
  obtain ⟨other, listed, same⟩ := List.mem_map.mp sink
  obtain ⟨_, _, _, named, _⟩ := exists_node_of_mem_sources loaded member
  obtain ⟨_, _, again, _⟩ := exists_node_of_mem_sinks handled listed
  rw [same] at again
  cases (named.unique again).2

/-! ## Fragments without conflict -/

variable (store isFinal target node)

theorem unconflicted_sourceStages : Unconflicted (sourceStages store isFinal target node) := by
  unfold sourceStages
  split
  · exact (store.unconflicted_datasetTemplates _).bind fun _ _ => .ok _
  · split
    · exact .ok _
    · refine (store.unconflicted_toolTemplates _ _ _).bind fun templates _ => ?_
      split
      · refine Unconflicted.bind ?_ fun _ _ => .ok _
        unfold exportStage
        split <;> nofun
      · exact (store.unconflicted_datanodeType _).bind fun _ _ => .ok _

theorem unconflicted_sinkStages : Unconflicted (sinkStages store isFinal node) := by
  unfold sinkStages
  split
  · exact .ok _
  · exact (store.unconflicted_toolTemplates _ _ _).bind fun _ _ => .ok _

theorem unconflicted_nodeStages : Unconflicted (nodeStages store isFinal target node) :=
  (unconflicted_sourceStages store isFinal target node).bind fun _ _ =>
    (unconflicted_sinkStages store isFinal node).bind fun _ _ => .ok _

theorem unconflicted_check (target : Option Target) :
    Unconflicted (target.elim (.ok ()) Target.check) := by
  cases target with
  | none => exact .ok ()
  | some target =>
    change Unconflicted target.check
    unfold Target.check
    split <;> nofun

/-- **Fragments are assembled without a conflict** if no two of their nodes have one number. -/
theorem unconflicted_ofNodes {nodes : List Node} (distinct : (nodes.map Node.id).Nodup) :
    Unconflicted (ofNodes store nodes isFinal target) := by
  rw [ofNodes_eq]
  refine (unconflicted_check target).bind fun _ _ => Unconflicted.bind
    (.mapM fun node _ => unconflicted_nodeStages store isFinal target node) fun each made => ?_
  obtain ⟨sources, sinks, loaded, handled, order, sides⟩ := mapM_nodeStages_ok made
  have undecorated := undecorated_of_distinct loaded handled order (nodup_nodeStages made distinct)
  rw [sides, undecorated.decorate_eq]
  exact .ok _

end Assembly

/-! ## Compilations without conflict -/

namespace Description

/-- The nodes of different positions have different numbers. -/
theorem nodup_id_nodeAt {root : Description} {positions : List Position}
    (known : positions ⊆ root.positions) (distinct : positions.Nodup) :
    ((positions.map (root.nodeAt 0)).map Node.id).Nodup := by
  rw [List.map_map]
  refine List.Nodup.map_on ?_ distinct
  intro position member other _ same
  have numbers : root.number position = root.number other := Nat.add_left_cancel same
  exact (number_inj (known member)).mp numbers

end Description

namespace Compilation

theorem unconflicted_toolBindings (tool : String) (descriptor : Descriptor) (inputs : List Node) :
    Unconflicted (toolBindings tool descriptor inputs) := by
  refine Unconflicted.bind (.mapM fun input _ => ?_) fun _ _ => .ok _
  split <;> nofun

theorem unconflicted_program (tool : String) (descriptor : Descriptor) :
    Unconflicted (program tool descriptor) := by
  unfold program
  split
  · nofun
  · split <;> nofun

theorem unconflicted_executor (tool : String) (descriptor : Descriptor) :
    Unconflicted (executor tool descriptor) := by
  unfold executor
  split <;> nofun

theorem unconflicted_outputFileNames (descriptor : Descriptor) (tool : String) :
    Unconflicted (descriptor.outputFileNames tool) := by
  refine .mapM fun output _ => ?_
  dsimp only
  split <;> nofun

theorem unconflicted_toolStep (graph : Graph) (node : Node) (descriptor : Descriptor) :
    Unconflicted (toolStep graph node descriptor) :=
  (unconflicted_toolBindings _ _ _).bind fun _ _ =>
    (unconflicted_program _ _).bind fun _ _ =>
      (unconflicted_executor _ _).bind fun _ _ =>
        (unconflicted_outputFileNames _ _).bind fun _ _ => .ok _

section Laid

variable {graph : Graph} {root : Description}
  (laid : graph.nodes = root.positions.map (root.nodeAt 0)) (store : Store) (settings : Settings)

include laid

/-- A workflow step contributes to a compilation without a conflict. -/
theorem unconflicted_stepPart (place : Nat) {node : Node} (listed : node ∈ graph.nodes) :
    Unconflicted (stepPart store settings graph place node) := by
  rw [laid] at listed
  obtain ⟨position, member, rfl⟩ := List.mem_map.mp listed
  have distinct : ((graph.inputsOf (root.nodeAt 0 position)).map Node.id).Nodup := by
    rw [Graph.inputsOf_nodeAt laid member]
    exact Description.nodup_id_nodeAt (Description.consumedAt_subset member)
      (root.nodup_consumedAt position)
  exact (Assembly.unconflicted_ofNodes store false none distinct).bind fun _ _ =>
    (store.unconflicted_descriptor _).bind fun _ _ =>
      (unconflicted_toolStep _ _ _).bind fun _ _ => .ok _

theorem unconflicted_finalPart {last : Node} (listed : last ∈ graph.nodes) :
    Unconflicted (finalPart store settings graph last) := by
  rw [laid] at listed
  obtain ⟨position, member, rfl⟩ := List.mem_map.mp listed
  have distinct : ((graph.outputsOf (root.nodeAt 0 position)).map Node.id).Nodup := by
    rw [Graph.outputsOf_nodeAt laid member]
    exact Description.nodup_id_nodeAt (Description.producedAt_subset member)
      (root.nodup_producedAt position)
  exact (Assembly.unconflicted_ofNodes store true settings.target distinct).bind fun _ _ => .ok _

theorem unconflicted_stepParts {nodes : List Node} (known : nodes ⊆ graph.nodes) (place : Nat) :
    Unconflicted (stepParts store settings graph place nodes) := by
  induction nodes generalizing place with
  | nil => exact .ok []
  | cons node rest ih =>
    have ⟨here, later⟩ := List.cons_subset.mp known
    exact (unconflicted_stepPart laid store settings place here).bind fun _ _ =>
      (ih later (place + 1)).bind fun _ _ => .ok _

theorem unconflicted_ofGraph : Unconflicted (ofGraph store settings graph) := by
  have known : graph.steps ⊆ graph.nodes := List.filter_subset_self _
  refine (unconflicted_stepParts laid store settings known 0).bind fun _ _ => ?_
  split
  · exact .ok _
  next last found =>
    exact (unconflicted_finalPart laid store settings (known (List.mem_of_getLast? found))).bind
      fun _ _ => .ok _

end Laid

end Compilation

/-- **Workflows are compiled without conflict.** -/
theorem unconflicted_compile (store : Store) (settings : Settings) (root : Description) :
    Unconflicted (compile store settings root) := by
  rw [Compilation.compile_eq]
  refine (Assembly.unconflicted_check settings.target).bind fun _ _ => ?_
  cases built : Graph.build root settings.maxDepth with
  | error reason => nofun
  | ok graph =>
    exact Compilation.unconflicted_ofGraph (Graph.nodes_of_build built) store settings

/-- **Names of stages never collide.** Neither a fragment over nodes with different numbers nor a
workflow is refused because two stages share a name. -/
theorem stageNames_never_collide (store : Store) :
    (∀ nodes isFinal target, (nodes.map Node.id).Nodup →
      Unconflicted (Assembly.ofNodes store nodes isFinal target)) ∧
    ∀ settings root, Unconflicted (compile store settings root) :=
  ⟨fun _ isFinal target distinct => Assembly.unconflicted_ofNodes store isFinal target distinct,
    unconflicted_compile store⟩

/-- The inputs of the second tool of the workflow with two tools. -/
theorem stageNames_never_collide_twoTools :
    Unconflicted (Assembly.ofNodes .twoTools
      [Description.twoTools.nodeAt 0 [0, 0], Description.twoTools.nodeAt 0 [0, 1]] false none) :=
  (stageNames_never_collide .twoTools).1 _ _ _ (by decide)

end WorkflowChain
