import WorkflowChain.Compile.Compilation
import WorkflowChain.Proofs.Compile.Assembly
import Mathlib.Data.List.Induction

/-! # The parts of a compilation

What a compilation that succeeded consists of. Every step of the graph has left its fragment and two
steps of the chain at a place that is known from the place of the step
(`Compilation.HasStep`), the last one has left the final fragment and a last step of the chain
(`Compilation.HasFinal`), and there is nothing else (`Compilation.compile_ok`).
-/

namespace WorkflowChain

/-- Numbers are told apart by their texts. -/
theorem toString_nat_injective : Function.Injective (toString : Nat → String) := by
  intro number other same
  have digits := congrArg (Nat.ofDigitChars 10 · 0) (congrArg String.toList same)
  simp only [Nat.toString_eq_repr, Nat.toList_repr, Nat.ofDigitChars_ten_toDigits] at digits
  exact digits

/-! ## Tool steps -/

/-- A tool step runs the tool of a node. -/
structure ToolStep.Runs (tool : ToolStep) (graph : Graph) (node : Node) (descriptor : Descriptor) :
    Prop where
  executor : descriptor.executor = some tool.workflow
  program : Compilation.program node.identifier descriptor =
    .ok (tool.inputs.command, tool.inputs.arguments)
  outputs : descriptor.outputFileNames node.identifier = .ok tool.inputs.outputs
  /-- The files are bound in order, first those of the inputs. -/
  files : ∃ bindings,
    Compilation.toolBindings node.identifier descriptor (graph.inputsOf node) = .ok bindings ∧
      tool.inputs.files = bindings.mapIdx fun place binding => (Compilation.fileKey place, binding)
  /-- The output files are copied in order, as many as there are artifacts. -/
  postprocess : tool.postprocess = tool.inputs.outputs.zipWith
    (fun file output => (Slot.Write.file file (output.slot .output)).render) (graph.outputsOf node)

namespace Compilation

theorem executor_ok {tool : String} {descriptor : Descriptor} {workflow : String}
    (known : executor tool descriptor = .ok workflow) : descriptor.executor = some workflow := by
  unfold executor at known
  split at known
  next named =>
    cases known
    exact named
  · cases known

/-- The bindings of a tool: first a slot for each input, with the name of the file that the tool
expects, and then the static files. -/
theorem toolBindings_ok {tool : String} {descriptor : Descriptor} {inputs : List Node}
    {bindings : List FileBinding} (bound : toolBindings tool descriptor inputs = .ok bindings) :
    ∃ own, bindings = own ++ (descriptor.files.map fun file =>
        FileBinding.template file.targetFile file.sourceUri) ∧
      List.Forall₂ (fun (input : Node) binding => ∃ name,
        descriptor.inputFileName? input.identifier = some name ∧
          binding = FileBinding.node name (Slot.reference (input.slot .input))) inputs own := by
  obtain ⟨own, each, bound⟩ := bind_ok.mp bound
  cases bound
  refine ⟨own, rfl, (mapM_ok.mp each).imp ?_⟩
  intro input binding made
  split at made
  next name named =>
    cases made
    exact ⟨name, named, rfl⟩
  · cases made

/-- Files at different places have different keys. -/
theorem fileKey_injective : Function.Injective fileKey :=
  fun _ _ same => toString_nat_injective ((String.append_right_inj _).mp same)

/-- No file takes the key of another. -/
theorem fileTable_eq (bindings : List FileBinding) :
    fileTable bindings = bindings.mapIdx fun place binding => (fileKey place, binding) := by
  induction bindings using List.reverseRecOn with
  | nil => rfl
  | append_singleton earlier binding ih =>
    have fresh : fileKey earlier.length ∉ (fileTable earlier).keys := by
      rw [ih]
      intro member
      obtain ⟨place, bound, same⟩ : ∃ place < earlier.length,
          fileKey place = fileKey earlier.length := by
        simpa [Table.keys, List.mem_mapIdx] using member
      exact absurd (fileKey_injective same) (Nat.ne_of_lt bound)
    have counted : (fileTable earlier).length = earlier.length := by
      rw [ih, List.length_mapIdx]
    rw [fileTable, List.foldl_append, List.foldl_cons, List.foldl_nil]
    change (fileTable earlier).put (fileKey (fileTable earlier).length) binding = _
    rw [counted, Table.put_of_notMem fresh, ih, List.mapIdx_concat]

/-- What a tool step is made of. -/
theorem toolStep_ok {graph : Graph} {node : Node} {descriptor : Descriptor} {tool : ToolStep}
    (made : toolStep graph node descriptor = .ok tool) : tool.Runs graph node descriptor := by
  obtain ⟨bindings, bound, made⟩ := bind_ok.mp made
  obtain ⟨⟨command, arguments⟩, named, made⟩ := bind_ok.mp made
  obtain ⟨workflow, known, made⟩ := bind_ok.mp made
  obtain ⟨outputs, declared, made⟩ := bind_ok.mp made
  cases made
  exact
    { executor := executor_ok known
      program := named
      outputs := declared
      files := ⟨bindings, bound, fileTable_eq bindings⟩
      postprocess := List.map_zipWith }

/-! ## Steps and their places -/

variable {store : Store} {settings : Settings} {graph : Graph}

/-- A compilation has what the step of a node is compiled to, at the place of the step: the fragment
over its inputs and, in the chain, the step that runs the fragment and then the tool. -/
structure HasStep (compilation : Compilation) (store : Store) (settings : Settings) (graph : Graph)
    (place : Nat) (node : Node) (assembly : Assembly) (descriptor : Descriptor) (tool : ToolStep) :
    Prop where
  assembled : Assembly.ofNodes store (graph.inputsOf node) false none = .ok assembly
  described : store.descriptor node.identifier = .ok descriptor
  runs : tool.Runs graph node descriptor
  fragment : compilation.fragments[place]? =
    some ⟨settings.fragmentName place, assembly.fragment⟩
  pipeline : compilation.chain.steps[2 * place]? = some (.pipeline
    (pipelineStep settings (settings.fragmentName place) (graph.inputsOf node) false))
  tool : compilation.chain.steps[2 * place + 1]? = some (.tool tool)

/-- A compilation has what follows the last step: the fragment over its outputs, and the step of the
chain that runs it. -/
structure HasFinal (compilation : Compilation) (store : Store) (settings : Settings) (graph : Graph)
    (last : Node) (assembly : Assembly) : Prop where
  assembled : Assembly.ofNodes store (graph.outputsOf last) true settings.target = .ok assembly
  fragment : compilation.fragments[graph.steps.length]? =
    some ⟨settings.finalFragmentName, assembly.fragment⟩
  pipeline : compilation.chain.steps[2 * graph.steps.length]? = some (.pipeline
    (pipelineStep settings settings.finalFragmentName (graph.outputsOf last) true))

/-- A fragment is run by the pipeline step at its place, which refers to its file. -/
structure RunsFragment (compilation : Compilation) (place : Nat) (pipeline : PipelineStep)
    (fragment : Fragment) : Prop where
  step : compilation.chain.steps[2 * place]? = some (.pipeline pipeline)
  file : ∃ fileName, compilation.fragments[place]? = some ⟨fileName, fragment⟩ ∧
    pipeline.inputs.pipeline = FileRef.sibling fileName

theorem HasStep.runsFragment {compilation : Compilation} {place : Nat} {node : Node}
    {assembly : Assembly} {descriptor : Descriptor} {tool : ToolStep}
    (step : compilation.HasStep store settings graph place node assembly descriptor tool) :
    compilation.RunsFragment place (pipelineStep settings (settings.fragmentName place)
      (graph.inputsOf node) false) assembly.fragment :=
  ⟨step.pipeline, _, step.fragment, rfl⟩

theorem HasFinal.runsFragment {compilation : Compilation} {last : Node} {assembly : Assembly}
    (final : compilation.HasFinal store settings graph last assembly) :
    compilation.RunsFragment graph.steps.length (pipelineStep settings settings.finalFragmentName
      (graph.outputsOf last) true) assembly.fragment :=
  ⟨final.pipeline, _, final.fragment, rfl⟩

/-- A compilation consists of what the steps of a graph are compiled to. -/
structure Follows (compilation : Compilation) (store : Store) (settings : Settings)
    (graph : Graph) : Prop where
  /-- Without steps there is nothing. -/
  nothing : graph.steps = [] → compilation.chain.steps = [] ∧ compilation.fragments = []
  /-- Else there are two steps and one fragment for each step, and one of both in the end. -/
  counts : graph.steps ≠ [] → compilation.chain.steps.length = 2 * graph.steps.length + 1 ∧
    compilation.fragments.length = graph.steps.length + 1
  step : ∀ place node, graph.steps[place]? = some node → ∃ assembly descriptor tool,
    compilation.HasStep store settings graph place node assembly descriptor tool
  final : ∀ last, graph.steps.getLast? = some last → ∃ assembly,
    compilation.HasFinal store settings graph last assembly
  /-- Only what the last step produces is warned about. -/
  warnings : compilation.warnings =
    (graph.steps.getLast?.toList.flatMap graph.outputsOf).flatMap (Assembly.nodeWarnings true)

/-- What a workflow step contributes to a compilation: a fragment, a pipeline step and a tool step.
-/
theorem stepPart_ok {place : Nat} {node : Node} {part : Part}
    (made : stepPart store settings graph place node = .ok part) :
    ∃ assembly descriptor tool,
      Assembly.ofNodes store (graph.inputsOf node) false none = .ok assembly ∧
      store.descriptor node.identifier = .ok descriptor ∧ tool.Runs graph node descriptor ∧
      part = ⟨⟨settings.fragmentName place, assembly.fragment⟩,
        [.pipeline (pipelineStep settings (settings.fragmentName place)
          (graph.inputsOf node) false), .tool tool], assembly.warnings⟩ := by
  obtain ⟨assembly, assembled, made⟩ := bind_ok.mp made
  obtain ⟨descriptor, described, made⟩ := bind_ok.mp made
  obtain ⟨tool, invoked, made⟩ := bind_ok.mp made
  cases made
  exact ⟨assembly, descriptor, tool, assembled, described, toolStep_ok invoked, rfl⟩

/-- What the last step contributes besides: the final fragment, and the pipeline step that runs it.
-/
theorem finalPart_ok {last : Node} {part : Part}
    (made : finalPart store settings graph last = .ok part) :
    ∃ assembly, Assembly.ofNodes store (graph.outputsOf last) true settings.target = .ok assembly ∧
      part = ⟨⟨settings.finalFragmentName, assembly.fragment⟩,
        [.pipeline (pipelineStep settings settings.finalFragmentName (graph.outputsOf last) true)],
        assembly.warnings⟩ := by
  obtain ⟨assembly, assembled, made⟩ := bind_ok.mp made
  cases made
  exact ⟨assembly, assembled, rfl⟩

/-- There is one part for each node, which is compiled at its place. -/
theorem stepParts_ok {place : Nat} {nodes : List Node} {parts : List Part}
    (made : stepParts store settings graph place nodes = .ok parts) :
    parts.length = nodes.length ∧ ∀ later node, nodes[later]? = some node →
      ∃ part, parts[later]? = some part ∧
        stepPart store settings graph (place + later) node = .ok part := by
  induction nodes generalizing place parts with
  | nil =>
    cases made
    exact ⟨rfl, nofun⟩
  | cons first others ih =>
    obtain ⟨part, own, made⟩ := bind_ok.mp made
    obtain ⟨rest, below, made⟩ := bind_ok.mp made
    cases made
    obtain ⟨counted, each⟩ := ih below
    refine ⟨congrArg (· + 1) counted, ?_⟩
    intro later node found
    cases later with
    | zero =>
      cases found
      exact ⟨part, rfl, own⟩
    | succ later =>
      obtain ⟨found, listed, made⟩ := each later node found
      rw [Nat.add_right_comm] at made
      exact ⟨found, listed, made⟩

/-- Every part is that of a node. -/
theorem exists_node_of_mem_stepParts {place : Nat} {nodes : List Node} {parts : List Part}
    (made : stepParts store settings graph place nodes = .ok parts) {part : Part}
    (member : part ∈ parts) :
    ∃ later, ∃ node ∈ nodes, stepPart store settings graph later node = .ok part := by
  obtain ⟨counted, each⟩ := stepParts_ok made
  obtain ⟨later, found⟩ := List.mem_iff_getElem?.mp member
  have bound := (List.getElem?_eq_some_iff.mp found).1
  have known := List.getElem?_eq_getElem (counted ▸ bound)
  obtain ⟨own, listed, made⟩ := each later _ known
  cases found.symm.trans listed
  exact ⟨_, _, List.mem_of_getElem? known, made⟩

/-- Every step of the workflow becomes two steps of the chain. -/
theorem length_steps_of_mem {place : Nat} {nodes : List Node} {parts : List Part}
    (made : stepParts store settings graph place nodes = .ok parts) :
    ∀ part ∈ parts, part.steps.length = 2 := by
  intro part member
  obtain ⟨_, _, _, own⟩ := exists_node_of_mem_stepParts made member
  obtain ⟨_, _, _, _, _, _, rfl⟩ := stepPart_ok own
  rfl

/-- Nothing is warned about before the last fragment. -/
theorem warnings_of_mem {place : Nat} {nodes : List Node} {parts : List Part}
    (made : stepParts store settings graph place nodes = .ok parts) :
    ∀ part ∈ parts, part.warnings = [] := by
  intro part member
  obtain ⟨_, _, _, own⟩ := exists_node_of_mem_stepParts made member
  obtain ⟨_, _, _, assembled, _, _, rfl⟩ := stepPart_ok own
  rw [Assembly.warnings_of_ofNodes assembled, List.flatMap_eq_nil_iff]
  exact fun _ _ => rfl

/-! ## Putting parts together -/

section Pairs

variable {parts : List Part} (pairs : ∀ part ∈ parts, part.steps.length = 2)

include pairs

theorem length_flatMap_steps : (parts.flatMap Part.steps).length = 2 * parts.length := by
  rw [List.length_flatMap, List.map_congr_left pairs, List.map_const', List.sum_replicate_nat,
    Nat.mul_comm]

/-- The steps of a part stand at twice its place. -/
theorem getElem?_flatMap_steps {place : Nat} {part : Part} (found : parts[place]? = some part)
    (offset : Nat) (inside : offset < 2) :
    (parts.flatMap Part.steps)[2 * place + offset]? = part.steps[offset]? := by
  induction parts generalizing place with
  | nil => cases found
  | cons first others ih =>
    have ⟨here, later⟩ := List.forall_mem_cons.mp pairs
    rw [List.flatMap_cons]
    cases place with
    | zero =>
      cases found
      rw [Nat.mul_zero, Nat.zero_add, List.getElem?_append_left (here ▸ inside)]
    | succ place =>
      rw [List.getElem?_append_right (by omega), here,
        show 2 * (place + 1) + offset - 2 = 2 * place + offset by omega]
      exact ih later found

end Pairs

theorem ofParts_append_steps (parts : List Part) (final : Part) :
    (ofParts settings (parts ++ [final])).chain.steps =
      parts.flatMap Part.steps ++ final.steps := by
  change (parts ++ [final]).flatMap Part.steps = _
  rw [List.flatMap_append, List.flatMap_singleton]

theorem ofParts_append_fragments (parts : List Part) (final : Part) :
    (ofParts settings (parts ++ [final])).fragments =
      parts.map Part.fragment ++ [final.fragment] := by
  change (parts ++ [final]).map Part.fragment = _
  rw [List.map_append, List.map_singleton]

/-- The parts of all steps with that of the last one are a compilation that follows the graph. -/
theorem follows_of_parts {parts : List Part} {last : Node} {final : Part}
    (made : stepParts store settings graph 0 graph.steps = .ok parts)
    (known : graph.steps.getLast? = some last)
    (ended : finalPart store settings graph last = .ok final) :
    (ofParts settings (parts ++ [final])).Follows store settings graph := by
  obtain ⟨counted, each⟩ := stepParts_ok made
  have pairs := length_steps_of_mem made
  have length := length_flatMap_steps pairs
  rw [counted] at length
  obtain ⟨assembly, assembled, rfl⟩ := finalPart_ok ended
  constructor
  case nothing =>
    intro none
    rw [none] at known
    cases known
  case counts =>
    intro _
    rw [ofParts_append_steps, ofParts_append_fragments, List.length_append, List.length_append,
      length, List.length_map, counted]
    exact ⟨rfl, rfl⟩
  case step =>
    intro place node found
    obtain ⟨part, listed, made⟩ := each place node found
    rw [Nat.zero_add] at made
    obtain ⟨assembly, descriptor, tool, assembled, described, runs, rfl⟩ := stepPart_ok made
    have bound := (List.getElem?_eq_some_iff.mp found).1
    have own := getElem?_flatMap_steps pairs listed
    refine ⟨assembly, descriptor, tool, assembled, described, runs, ?_, ?_, ?_⟩
    · rw [ofParts_append_fragments, List.getElem?_append_left (by rw [List.length_map]; omega),
        List.getElem?_map, listed]
      rfl
    · rw [ofParts_append_steps, List.getElem?_append_left (by omega)]
      exact own 0 (by omega)
    · rw [ofParts_append_steps, List.getElem?_append_left (by omega)]
      exact own 1 (by omega)
  case final =>
    intro other found
    obtain rfl : other = last := Option.some.inj (found.symm.trans known)
    refine ⟨assembly, assembled, ?_, ?_⟩
    · rw [ofParts_append_fragments, List.getElem?_append_right (by rw [List.length_map]; omega),
        List.length_map, counted, Nat.sub_self]
      rfl
    · rw [ofParts_append_steps, List.getElem?_append_right (by omega), length, Nat.sub_self]
      rfl
  case warnings =>
    have quiet := List.flatMap_eq_nil_iff.mpr (warnings_of_mem made)
    change (parts ++ [_]).flatMap Part.warnings = _
    rw [List.flatMap_append, quiet, List.nil_append, List.flatMap_singleton, known,
      Option.toList_some, List.flatMap_singleton]
    exact Assembly.warnings_of_ofNodes assembled

/-- A compilation of a graph follows the graph, step by step. -/
theorem ofGraph_ok {compilation : Compilation}
    (compiled : ofGraph store settings graph = .ok compilation) :
    compilation.Follows store settings graph := by
  obtain ⟨parts, made, compiled⟩ := bind_ok.mp compiled
  cases known : graph.steps.getLast? with
  | none =>
    have none := List.getLast?_eq_none_iff.mp known
    have counted := (stepParts_ok made).1
    rw [none, List.length_nil] at counted
    obtain rfl := List.length_eq_zero_iff.mp counted
    rw [known] at compiled
    cases compiled
    exact
      { nothing := fun _ => ⟨rfl, rfl⟩
        counts := fun some => absurd none some
        step := fun place node found => by simp [none] at found
        final := fun last found => by simp [known] at found
        warnings := by rw [known]; rfl }
  | some last =>
    rw [known] at compiled
    obtain ⟨final, ended, compiled⟩ := bind_ok.mp compiled
    cases compiled
    exact follows_of_parts made known ended

/-- Compiling checks the target first, then it builds the graph, and then it goes through the graph.
-/
theorem compile_eq (store : Store) (settings : Settings) (description : Description) :
    compile store settings description =
      (settings.target.elim (.ok ()) Target.check >>= fun _ =>
        match Graph.build description settings.maxDepth with
        | .error error => .error (.graph error)
        | .ok graph => ofGraph store settings graph) := by
  unfold compile
  cases settings.target <;> rfl

/-- **A compilation follows its graph.** -/
theorem compile_ok {description : Description} {compilation : Compilation}
    (compiled : compile store settings description = .ok compilation) :
    ∃ graph, Graph.build description settings.maxDepth = .ok graph ∧
      compilation.Follows store settings graph := by
  rw [compile_eq] at compiled
  obtain ⟨_, _, compiled⟩ := bind_ok.mp compiled
  cases built : Graph.build description settings.maxDepth with
  | error reason =>
    rw [built] at compiled
    cases compiled
  | ok graph =>
    rw [built] at compiled
    exact ⟨graph, rfl, ofGraph_ok compiled⟩

/-- **Every step of a chain** runs the fragment or the tool of a step of the graph, or the final
fragment. -/
theorem Follows.cases_step {compilation : Compilation} {place : Nat} {step : ChainStep}
    (follows : compilation.Follows store settings graph)
    (found : compilation.chain.steps[place]? = some step) :
    (∃ index node assembly descriptor tool, graph.steps[index]? = some node ∧
      compilation.HasStep store settings graph index node assembly descriptor tool ∧
      (place = 2 * index ∧ step = .pipeline (pipelineStep settings (settings.fragmentName index)
          (graph.inputsOf node) false) ∨
        place = 2 * index + 1 ∧ step = .tool tool)) ∨
    ∃ last assembly, graph.steps.getLast? = some last ∧
      compilation.HasFinal store settings graph last assembly ∧ place = 2 * graph.steps.length ∧
      step = .pipeline (pipelineStep settings settings.finalFragmentName
        (graph.outputsOf last) true) := by
  have bound := (List.getElem?_eq_some_iff.mp found).1
  have nonempty : graph.steps ≠ [] := by
    intro none
    rw [(follows.nothing none).1] at found
    cases found
  rw [(follows.counts nonempty).1] at bound
  rcases Nat.lt_or_ge (place / 2) graph.steps.length with inside | outside
  · left
    have known := List.getElem?_eq_getElem inside
    obtain ⟨assembly, descriptor, tool, own⟩ := follows.step _ _ known
    refine ⟨place / 2, _, assembly, descriptor, tool, known, own, ?_⟩
    rcases Nat.mod_two_eq_zero_or_one place with even | odd
    · have same : place = 2 * (place / 2) := by omega
      rw [same] at found
      exact .inl ⟨same, Option.some.inj (found.symm.trans own.pipeline)⟩
    · have same : place = 2 * (place / 2) + 1 := by omega
      rw [same] at found
      exact .inr ⟨same, Option.some.inj (found.symm.trans own.tool)⟩
  · right
    have same : place = 2 * graph.steps.length := by omega
    have known := List.getLast?_eq_some_getLast nonempty
    obtain ⟨assembly, own⟩ := follows.final _ known
    rw [same] at found
    exact ⟨_, assembly, known, own, same, Option.some.inj (found.symm.trans own.pipeline)⟩

end Compilation

end WorkflowChain
