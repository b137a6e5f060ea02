import WorkflowChain.Proofs.Compile.DistinctNames
import WorkflowChain.Proofs.Compile.OutputBinding
import WorkflowChain.Proofs.Compile.SlotFlow
import WorkflowChain.Proofs.Compile.StageName

/-! # Who writes a slot

The copies of all steps of a chain write to different slots, with one exception. A pipeline step
writes the slots of the inputs of its step, and every node is an input of at most one step. A tool
step writes the slot of the artifact that its step produces, and an artifact may have any number of
producers: their tool steps write the same slot one after the other.
-/

namespace WorkflowChain

/-- The slot that the text of a copy writes to, which stands between its last two quotes. -/
def Slot.target (text : String) : String :=
  let upToQuote := (text.toList.reverse.dropWhile (· != '\'')).drop 1
  String.ofList (upToQuote.takeWhile (· != '\'')).reverse

/-- The copy with an index, among those made after the step at a place, writes to a slot. -/
def Chain.Copies (chain : Chain) (place index : Nat) (slot : String) : Prop :=
  ∃ step text, chain.steps[place]? = some step ∧ step.postprocess[index]? = some text ∧
    Slot.target text = slot

/-- The steps of a chain at two places run the tools of steps that produce the same artifact. -/
def Graph.SameProduct (graph : Graph) (place other : Nat) : Prop :=
  ∃ first second step partner, place = 2 * first + 1 ∧ other = 2 * second + 1 ∧
    graph.steps[first]? = some step ∧ graph.steps[second]? = some partner ∧
    graph.outputsOf step = graph.outputsOf partner

/-- Two copies write to the same slot exactly if they are the same copy, or are those of the tools
that produce one artifact. -/
def Chain.WritesApart (chain : Chain) (graph : Graph) : Prop :=
  ∀ place index slot other position partner, chain.Copies place index slot →
    chain.Copies other position partner →
      (slot = partner ↔ place = other ∧ index = position ∨ graph.SameProduct place other)

theorem Chain.Copies.slot_eq {chain : Chain} {place index : Nat} {slot partner : String}
    (copies : chain.Copies place index slot) (again : chain.Copies place index partner) :
    slot = partner := by
  obtain ⟨step, text, found, listed, rfl⟩ := copies
  obtain ⟨_, _, chosen, taken, rfl⟩ := again
  cases found.symm.trans chosen
  cases listed.symm.trans taken
  rfl

/-! ## Targets of copies -/

theorem Slot.target_eq {before slot after : List Char} (plain : '\'' ∉ slot)
    (last : '\'' ∉ after) :
    target (String.ofList (before ++ '\'' :: (slot ++ '\'' :: after))) = String.ofList slot := by
  have others : ∀ letters : List Char, '\'' ∉ letters →
      ∀ c ∈ letters.reverse, (c != '\'') = true := by
    intro letters absent c member
    rw [bne_iff_ne]
    rintro rfl
    exact absent (List.mem_reverse.mp member)
  simp only [target, String.toList_ofList, List.reverse_append, List.reverse_cons,
    List.append_assoc, List.cons_append, List.nil_append]
  rw [List.dropWhile_append_of_pos (others after last), List.dropWhile_cons_of_neg (by decide),
    List.drop_one, List.tail_cons, List.takeWhile_append_of_pos (others slot plain),
    List.takeWhile_cons_of_neg (by decide), List.append_nil, List.reverse_reverse]

/-- What a copy writes to can be read from its text, if no quote is in the way. -/
theorem Slot.Write.target_render {write : Write} (plain : '\'' ∉ write.slot.toList) :
    target write.render = write.slot := by
  have text : write.render = String.ofList (("\x7b\x7b " ++ write.source ++ "|to_ctx(").toList ++
      '\'' :: (write.slot.toList ++ '\'' :: ") \x7d\x7d".toList)) := by
    apply String.toList_inj.mp
    simp [render]
  rw [text, target_eq plain (by decide), String.ofList_toList]

/-- The text of a copy with which a step writes a slot has the slot as its target. -/
theorem ChainStep.Writes.exists_target {step : ChainStep} {slot : String}
    (writes : step.Writes slot) (plain : '\'' ∉ slot.toList) :
    ∃ text ∈ step.postprocess, Slot.target text = slot := by
  cases step with
  | pipeline step => exact ⟨_, writes, Slot.Write.target_render plain⟩
  | tool step =>
    obtain ⟨_, _, listed⟩ := writes
    exact ⟨_, listed, Slot.Write.target_render plain⟩

/-! ## The writers of a graph -/

namespace Graph

/-- What a chain copies for the steps of a graph: after a pipeline step the results for the inputs,
and after a tool step a file for the artifact that the step produces. -/
inductive Copies (graph : Graph) : Nat → Nat → Node → Direction → Prop where
  | result {first index : Nat} {step input : Node} (found : graph.steps[first]? = some step)
      (used : (graph.inputsOf step)[index]? = some input) :
      Copies graph (2 * first) index input .input
  | file {first : Nat} {step output : Node} (found : graph.steps[first]? = some step)
      (produces : graph.outputsOf step = [output]) :
      Copies graph (2 * first + 1) 0 output .output

variable {graph : Graph} {place index other position : Nat} {node : Node} {direction : Direction}

theorem Copies.mem_nodes (copies : graph.Copies place index node direction) :
    node ∈ graph.nodes := by
  cases copies with
  | result _ used => exact mem_nodes_of_mem_inputsOf (List.mem_of_getElem? used)
  | file _ produces => exact mem_nodes_of_mem_outputsOf (produces ▸ List.mem_cons_self)

section Laid

variable {root : Description} (laid : graph.nodes = root.positions.map (root.nodeAt 0))

include laid

/-- A node is an input of one step, and once. -/
theorem input_inj {first second : Nat} {step partner input : Node}
    (found : graph.steps[first]? = some step) (chosen : graph.steps[second]? = some partner)
    (used : (graph.inputsOf step)[index]? = some input)
    (again : (graph.inputsOf partner)[position]? = some input) :
    first = second ∧ index = position := by
  obtain ⟨above, listed, rfl⟩ := (getElem?_steps laid).mp found
  obtain ⟨outer, counted, rfl⟩ := (getElem?_steps laid).mp chosen
  have member := root.productions_subset (List.mem_of_getElem? listed)
  have known := root.productions_subset (List.mem_of_getElem? counted)
  rw [inputsOf_nodeAt laid member, List.getElem?_map, Option.map_eq_some_iff] at used
  rw [inputsOf_nodeAt laid known, List.getElem?_map, Option.map_eq_some_iff] at again
  obtain ⟨below, consumed, rfl⟩ := used
  obtain ⟨under, taken, same⟩ := again
  have inside := Description.consumedAt_subset known (List.mem_of_getElem? taken)
  obtain rfl := (Description.number_inj inside).mp (Nat.add_left_cancel (congrArg Node.id same))
  -- The step stands above its inputs, so that it is told by each of them.
  obtain ⟨_, _, _, _, child⟩ := Description.mem_consumedAt.mp (List.mem_of_getElem? consumed)
  obtain ⟨_, _, _, _, alike⟩ := Description.mem_consumedAt.mp (List.mem_of_getElem? taken)
  obtain rfl := (List.append_inj' (child.symm.trans alike) rfl).1
  have places : root.productions.Nodup := root.nodup_positions.filter _
  constructor
  · exact (List.getElem?_inj (List.getElem?_eq_some_iff.mp listed).1 places).mp
      (listed.trans counted.symm)
  · exact (List.getElem?_inj (List.getElem?_eq_some_iff.mp consumed).1
      (root.nodup_consumedAt above)).mp (consumed.trans taken.symm)

/-- Two copies for one node are the same, or are made after tools with the same product. -/
theorem Copies.eq_or_sameProduct (copies : graph.Copies place index node direction)
    (again : graph.Copies other position node direction) :
    place = other ∧ index = position ∨ graph.SameProduct place other := by
  cases copies with
  | result found used =>
    cases again with
    | result chosen taken =>
      obtain ⟨rfl, rfl⟩ := input_inj laid found chosen used taken
      exact .inl ⟨rfl, rfl⟩
  | file found produces =>
    cases again with
    | file chosen makes =>
      exact .inr ⟨_, _, _, _, rfl, rfl, found, chosen, produces.trans makes.symm⟩

end Laid

/-- The tool steps that produce one artifact copy a file for it. -/
theorem Copies.node_eq {partner : Node} {side : Direction}
    (copies : graph.Copies place index node direction)
    (again : graph.Copies other position partner side) (same : graph.SameProduct place other) :
    node = partner ∧ direction = side := by
  obtain ⟨first, second, step, sibling, odd, later, found, chosen, product⟩ := same
  cases copies with
  | result => omega
  | @file earlier _ _ known produces =>
    cases again with
    | result => omega
    | @file after _ _ taken makes =>
      obtain rfl : first = earlier := by omega
      obtain rfl : second = after := by omega
      cases found.symm.trans known
      cases chosen.symm.trans taken
      rw [produces, makes] at product
      exact ⟨(List.cons.inj product).1, rfl⟩

end Graph

/-! ## The copies of a chain -/

namespace Compilation

variable {store : Store} {settings : Settings} {graph : Graph} {root : Description}
  {compilation : Compilation}

/-- Every copy is one for a step of the graph, with which the step at its place writes the slot. -/
theorem Follows.exists_copies (laid : graph.nodes = root.positions.map (root.nodeAt 0))
    (follows : compilation.Follows store settings graph) {place index : Nat} {slot : String}
    (copies : compilation.chain.Copies place index slot) :
    ∃ node direction step, graph.Copies place index node direction ∧ slot = node.slot direction ∧
      compilation.chain.steps[place]? = some step ∧ step.Writes slot := by
  obtain ⟨step, text, found, listed, aimed⟩ := copies
  have target : ∀ write : Slot.Write, ∀ (node : Node) (direction : Direction),
      write.slot = node.slot direction → Slot.target write.render = node.slot direction := by
    intro write node direction same
    rw [← same]
    apply Slot.Write.target_render
    rw [same]
    exact node.notMem_slot direction (by decide) (by decide)
  rcases follows.cases_step found with
    ⟨first, node, _, descriptor, tool, known, own, ⟨rfl, rfl⟩ | ⟨rfl, rfl⟩⟩ | ⟨_, _, _, _, _, rfl⟩
  · simp only [ChainStep.postprocess, pipelineStep, Bool.false_eq_true, ↓reduceIte, List.map_map,
      List.getElem?_map, Option.map_eq_some_iff] at listed
    obtain ⟨input, used, rfl⟩ := listed
    obtain rfl := aimed.symm.trans (target _ input .input rfl)
    exact ⟨input, .input, _, .result known used, rfl, found,
      pipelineStep_writes (List.mem_of_getElem? used)⟩
  · obtain ⟨position, production, rfl⟩ := (Graph.getElem?_steps laid).mp known
    have produces := Graph.outputsOf_production laid (List.mem_of_getElem? production)
    rw [ChainStep.postprocess, own.runs.postprocess_eq produces] at listed
    -- A tool without files has nothing copied, any other the first of its files.
    cases declared : descriptor.firstFileName? with
    | none =>
      rw [declared] at listed
      cases listed
    | some file =>
      have documents : descriptor.output ≠ [] := by
        intro none
        rw [Descriptor.firstFileName?, none] at declared
        cases declared
      rw [declared] at listed
      cases index with
      | zero =>
        cases listed
        obtain rfl := aimed.symm.trans (target _ (root.nodeAt 0 position.dropLast) .output rfl)
        exact ⟨_, .output, _, .file known produces, rfl, found,
          own.runs.writes produces documents⟩
      | succ => cases listed
  · cases listed

/-- The steps of a compiled chain write a slot of a node exactly if one of their copies does. -/
theorem Follows.writes_iff (laid : graph.nodes = root.positions.map (root.nodeAt 0))
    (follows : compilation.Follows store settings graph) {place : Nat} {step : ChainStep}
    (found : compilation.chain.steps[place]? = some step) (node : Node) (direction : Direction) :
    step.Writes (node.slot direction) ↔
      ∃ index, compilation.chain.Copies place index (node.slot direction) := by
  constructor
  · intro writes
    obtain ⟨text, listed, target⟩ :=
      writes.exists_target (node.notMem_slot direction (by decide) (by decide))
    obtain ⟨index, chosen⟩ := List.mem_iff_getElem?.mp listed
    exact ⟨index, step, text, found, chosen, target⟩
  · rintro ⟨index, copies⟩
    obtain ⟨_, _, writer, _, _, known, writes⟩ := follows.exists_copies laid copies
    cases found.symm.trans known
    exact writes

/-- **Who writes a slot.** The copies of a chain write to different slots, but for those of the tool
steps that produce one artifact. -/
theorem writesApart_of_compile (compiled : compile store settings root = .ok compilation) :
    ∃ graph, Graph.build root settings.maxDepth = .ok graph ∧
      compilation.chain.WritesApart graph := by
  obtain ⟨graph, built, follows⟩ := compile_ok compiled
  have laid := Graph.nodes_of_build built
  refine ⟨graph, built, ?_⟩
  intro place index slot other position partner copies again
  obtain ⟨node, direction, _, own, named, _⟩ := follows.exists_copies laid copies
  obtain ⟨sibling, side, _, also, written, _⟩ := follows.exists_copies laid again
  constructor
  · intro same
    have plain : node.StageName direction (sibling.slot side) := by
      rw [← written, ← same, named]
      exact .plain direction
    obtain ⟨numbers, rfl⟩ := plain.unique (.plain side)
    obtain rfl := Graph.eq_of_id_eq laid own.mem_nodes also.mem_nodes numbers
    exact own.eq_or_sameProduct laid also
  · rintro (⟨rfl, rfl⟩ | product)
    · exact copies.slot_eq again
    · obtain ⟨rfl, rfl⟩ := own.node_eq also product
      rw [named, written]

/-- The two tools of the workflow with two tools write slots of their own. -/
theorem writesApart_twoTools :
    ∃ compilation graph, compile .twoTools {} .twoTools = .ok compilation ∧
      compilation.chain.WritesApart graph ∧
      compilation.chain.Copies 1 0 "datanode_3_output" ∧
      compilation.chain.Copies 3 0 "datanode_5_output" ∧ ¬graph.SameProduct 1 3 := by
  have ⟨compilation, compiled, mesher, solver⟩ :
      ∃ compilation, compile .twoTools {} .twoTools = .ok compilation ∧
        compilation.chain.Copies 1 0 "datanode_3_output" ∧
        compilation.chain.Copies 3 0 "datanode_5_output" :=
    ⟨_, rfl, ⟨_, _, rfl, rfl, rfl⟩, ⟨_, _, rfl, rfl, rfl⟩⟩
  obtain ⟨graph, _, apart⟩ := writesApart_of_compile compiled
  refine ⟨compilation, graph, compiled, apart, mesher, solver, fun same => ?_⟩
  have slots := (apart _ _ _ _ _ _ mesher solver).mpr (.inr same)
  revert slots
  decide

end Compilation

/-! ## A slot with two writers -/

/-- A result that two tools produce from the same dataset. -/
def Description.twoProducers : Description :=
  ((branch "result").producedBy ((branch "first").consuming (leaf "raw"))).producedBy
    ((branch "second").consuming (leaf "raw"))

/-- What there is to know for the result of two tools. -/
def Store.twoProducers : Store where
  entries :=
    [("raw", .dataset
        [⟨"dataresource", [("downloadUrl", .text "https://example.org/raw.csv")]⟩]),
      ("first", .tool
        { input := [("raw", [⟨"function", [("location", .text "raw.csv")]⟩])]
          output := [("result", [⟨"dataresource", [("downloadUrl", .text "first.csv")]⟩])]
          command := some "first.sh --in raw.csv"
          executor := some "execwrapper" }),
      ("second", .tool
        { input := [("raw", [⟨"function", [("location", .text "raw.csv")]⟩])]
          output := [("result", [⟨"dataresource", [("downloadUrl", .text "second.csv")]⟩])]
          command := some "second.sh --in raw.csv"
          executor := some "execwrapper" })]

/-- The tool steps of both tools write the slot of the result. -/
theorem Compilation.exists_two_writers :
    ∃ compilation, compile .twoProducers {} .twoProducers = .ok compilation ∧
      compilation.chain.Copies 1 0 "datanode_4_output" ∧
      compilation.chain.Copies 3 0 "datanode_4_output" :=
  ⟨_, rfl, ⟨_, _, rfl, rfl, rfl⟩, ⟨_, _, rfl, rfl, rfl⟩⟩

end WorkflowChain
