import WorkflowChain.Proofs.Compile.ChainLayout

/-! # Which file reaches the slot of an artifact

A tool step copies the files that its tool declares, in the order in which it declares them, into
the slots of the artifacts that its node produces. A node produces one artifact, so that only the
first declared file is copied, whichever artifact it belongs to. The slot of an artifact therefore
gets the file that the tool declares for it exactly if that file has the port of the first
declared one: a tool that declares a log file before its result has the log file copied in place
of the result.
-/

namespace WorkflowChain

namespace Descriptor

/-- The file that the first of some templates downloads. -/
def fileName? (templates : List Template) : Option String :=
  templates.head?.bind Template.downloadUrl?

/-- The file that a tool declares for an artifact. -/
def outputFileName? (descriptor : Descriptor) (artifact : String) : Option String :=
  (descriptor.templatesFor? .output artifact).bind fileName?

/-- The file that a tool declares first. -/
def firstFileName? (descriptor : Descriptor) : Option String :=
  descriptor.output.head?.bind fun entry => fileName? entry.2

theorem head?_outputFileNames {descriptor : Descriptor} {tool : String} {files : List String}
    (declared : descriptor.outputFileNames tool = .ok files) :
    files.head? = descriptor.firstFileName? := by
  have each := mapM_ok.mp declared
  unfold firstFileName?
  cases outputs : descriptor.output with
  | nil =>
    rw [outputs, List.forall₂_nil_left_iff] at each
    rw [each]
    rfl
  | cons entry rest =>
    rw [outputs, List.forall₂_cons_left_iff] at each
    obtain ⟨file, others, first, _, rfl⟩ := each
    dsimp only at first
    split at first
    next url known =>
      cases first
      exact known.symm
    · cases first

end Descriptor

/-- A tool step copies the file that its tool declares for an artifact into the slot of the
artifact. -/
def ToolStep.CopiesOwnFile (tool : ToolStep) (descriptor : Descriptor) (output : Node) : Prop :=
  ∃ file, descriptor.outputFileName? output.identifier = some file ∧
    (Slot.Write.file file (output.slot .output)).render ∈ tool.postprocess

/-- Copies into one slot are told apart by the ports they are made from. -/
theorem Slot.Write.render_file_inj {file other slot : String} :
    (Slot.Write.file file slot).render = (Slot.Write.file other slot).render ↔
      port file = port other := by
  constructor
  · intro same
    unfold render source Write.slot at same
    simp only [String.append_left_inj, String.append_right_inj] at same
    exact same
  · intro same
    unfold render source
    dsimp only
    rw [same]
    rfl

namespace ToolStep.Runs

variable {graph : Graph} {node output : Node} {descriptor : Descriptor} {tool : ToolStep}
  (runs : tool.Runs graph node descriptor) (produces : graph.outputsOf node = [output])

include runs produces

/-- Only the first declared file is copied. -/
theorem postprocess_eq :
    tool.postprocess = (descriptor.firstFileName?.map fun file =>
      (Slot.Write.file file (output.slot .output)).render).toList := by
  rw [runs.postprocess, produces, ← Descriptor.head?_outputFileNames runs.outputs]
  cases tool.inputs.outputs with
  | nil => rfl
  | cons file rest =>
    rw [List.zipWith_cons_cons, List.zipWith_nil_right]
    rfl

theorem copiesOwnFile_iff :
    tool.CopiesOwnFile descriptor output ↔
      ∃ file first, descriptor.outputFileName? output.identifier = some file ∧
        descriptor.firstFileName? = some first ∧ Slot.Write.port file = Slot.Write.port first := by
  unfold CopiesOwnFile
  simp only [runs.postprocess_eq produces, Option.mem_toList, Option.map_eq_some_iff,
    Slot.Write.render_file_inj]
  constructor
  · rintro ⟨file, own, first, declared, same⟩
    exact ⟨file, first, own, declared, same.symm⟩
  · rintro ⟨file, first, own, declared, same⟩
    exact ⟨file, own, first, declared, same.symm⟩

end ToolStep.Runs

namespace Compilation

/-- **When the file of an artifact is copied.** The tool step of every step of the graph copies
the file of the artifact that it produces exactly if the tool declares a file for the artifact,
and a file of the same port first. -/
theorem copiesOwnFile_iff_of_compile {store : Store} {settings : Settings} {root : Description}
    {compilation : Compilation} (compiled : compile store settings root = .ok compilation) :
    ∃ graph, Graph.build root settings.maxDepth = .ok graph ∧
      ∀ place node, graph.steps[place]? = some node →
        ∃ descriptor tool, store.descriptor node.identifier = .ok descriptor ∧
          compilation.chain.steps[2 * place + 1]? = some (.tool tool) ∧
          ∀ output ∈ graph.outputsOf node, tool.CopiesOwnFile descriptor output ↔
            ∃ file first, descriptor.outputFileName? output.identifier = some file ∧
              descriptor.firstFileName? = some first ∧
              Slot.Write.port file = Slot.Write.port first := by
  obtain ⟨graph, built, follows⟩ := compile_ok compiled
  have laid := Graph.nodes_of_build built
  refine ⟨graph, built, ?_⟩
  intro place node known
  obtain ⟨_, descriptor, tool, step⟩ := follows.step place node known
  refine ⟨descriptor, tool, step.described, step.tool, ?_⟩
  intro output listed
  obtain ⟨position, found, rfl⟩ := (Graph.getElem?_steps laid).mp known
  have produces := Graph.outputsOf_production laid (List.mem_of_getElem? found)
  rw [produces] at listed
  cases List.mem_singleton.mp listed
  exact step.runs.copiesOwnFile_iff produces

/-- The second tool of the workflow with two tools declares a single file, which is copied. -/
theorem copiesOwnFile_twoTools :
    ∃ compilation tool descriptor output, compile .twoTools {} .twoTools = .ok compilation ∧
      Store.twoTools.descriptor "solver" = .ok descriptor ∧
      compilation.chain.steps[3]? = some (.tool tool) ∧ output.identifier = "field" ∧
      tool.CopiesOwnFile descriptor output := by
  obtain ⟨compilation, compiled⟩ := compile_twoTools
  obtain ⟨graph, built, each⟩ := copiesOwnFile_iff_of_compile compiled
  cases built
  obtain ⟨descriptor, tool, described, ran, copies⟩ := each 1 _ rfl
  cases described
  exact ⟨compilation, tool, _, _, compiled, rfl, ran, rfl,
    (copies _ List.mem_cons_self).mpr ⟨_, _, rfl, rfl, rfl⟩⟩

end Compilation

/-! ## A file that is copied in place of another -/

/-- A tool with a log file, which it declares before its result. -/
def Store.loggingTool : Store where
  entries :=
    [("raw", .dataset
        [⟨"dataresource", [("downloadUrl", .text "https://example.org/raw.csv")]⟩]),
      ("tool", .tool
        { input := [("raw", [⟨"function", [("location", .text "raw.csv")]⟩])]
          output :=
            [("log", [⟨"dataresource", [("downloadUrl", .text "run.log")]⟩]),
              ("result", [⟨"dataresource", [("downloadUrl", .text "result.csv")]⟩])]
          command := some "tool.sh --in raw.csv"
          executor := some "execwrapper" })]

/-- A result that a tool produces from a dataset. -/
def Description.oneTool : Description :=
  (branch "result").producedBy ((branch "tool").consuming (leaf "raw"))

/-- The log file is copied in place of the result, for which the tool declares another file. -/
theorem Compilation.exists_wrong_file :
    ∃ compilation graph node output descriptor tool,
      compile .loggingTool {} .oneTool = .ok compilation ∧
      Graph.build .oneTool 64 = .ok graph ∧ graph.steps[0]? = some node ∧
      output ∈ graph.outputsOf node ∧
      Store.loggingTool.descriptor node.identifier = .ok descriptor ∧
      compilation.chain.steps[1]? = some (.tool tool) ∧
      descriptor.outputFileName? output.identifier = some "result.csv" ∧
      (Slot.Write.file "run.log" (output.slot .output)).render ∈ tool.postprocess ∧
      ¬ tool.CopiesOwnFile descriptor output := by
  refine ⟨_, _, _, _, _, _, rfl, rfl, rfl, List.mem_cons_self, rfl, rfl, rfl,
    List.mem_cons_self, ?_⟩
  rintro ⟨file, own, member⟩
  cases own
  revert member
  decide

end WorkflowChain
