import WorkflowChain.Compile.Sink
import WorkflowChain.Proofs.Compile.ChainLayout

/-! # The documents of a compilation

A compilation is written as one document for each fragment and one for the chain. The fragments of
steps are numbered, so that their documents have different names, whatever the names begin with; and
the names of the final fragment and of the chain do not end like a numbered one. Nothing is written
twice, and each step of the chain that runs a fragment refers to the document that holds it.
-/

namespace WorkflowChain

/-- Settings in which the final fragment and the chain have their usual names. -/
structure Settings.UsualNames (settings : Settings) : Prop where
  final : settings.finalFragmentName = ({} : Settings).finalFragmentName
  chain : settings.chainFileName = ({} : Settings).chainFileName

/-- A fragment is assembled for the step at a place of the chain: over the inputs of a step of the
graph, or over the outputs of the last one. -/
inductive Graph.AssembledFor (graph : Graph) (store : Store) (settings : Settings) :
    Nat → Fragment → Prop where
  | inputs {place : Nat} {node : Node} {assembly : Assembly}
      (known : graph.steps[place]? = some node)
      (assembled : Assembly.ofNodes store (graph.inputsOf node) false none = .ok assembly) :
      AssembledFor graph store settings (2 * place) assembly.fragment
  | outputs {last : Node} {assembly : Assembly} (known : graph.steps.getLast? = some last)
      (assembled : Assembly.ofNodes store (graph.outputsOf last) true settings.target =
        .ok assembly) :
      AssembledFor graph store settings (2 * graph.steps.length) assembly.fragment

/-- A sink holds a compilation, and the chain finds its fragments there. -/
structure Sink.Holds (sink : Sink) (compilation : Compilation) (store : Store)
    (settings : Settings) (graph : Graph) : Prop where
  /-- The documents are those of the fragments, in order, and then that of the chain. -/
  names : sink.names =
    compilation.fragments.map NamedFragment.fileName ++ [compilation.chainFileName]
  distinct : sink.names.Nodup
  fragment : ∀ named ∈ compilation.fragments,
    sink.get? named.fileName = some named.fragment.render
  chain : sink.get? compilation.chainFileName = some compilation.chain.render
  /-- A step that runs a fragment refers to the document with the fragment assembled for it. -/
  reference : ∀ (place : Nat) pipeline,
    compilation.chain.steps[place]? = some (.pipeline pipeline) →
      ∃ name fragment, pipeline.inputs.pipeline.reference = "file:__DIR__/" ++ name ∧
        ⟨name, fragment⟩ ∈ compilation.fragments ∧
        graph.AssembledFor store settings place fragment ∧
        sink.get? name = some fragment.render

/-- A value shows a stage: its strategy with its name, and every other key as in its configuration.
-/
structure Stage.ShownBy (stage : Stage) (value : Value) : Prop where
  name : value.field? stage.strategy = some (.text stage.name)
  config : ∀ key ≠ stage.strategy, value.field? key = stage.config.lookup key

/-- A value shows a fragment: the version of the format, the stages in order, the pipe, and nothing
else. -/
structure Fragment.ShownBy (fragment : Fragment) (value : Value) : Prop where
  version : value.field? "version" = some (.int 1)
  strategies : ∃ stages, value.field? "strategies" = some (.list stages) ∧
    List.Forall₂ Stage.ShownBy fragment.stages stages
  pipelines : value.field? "pipelines" = some (.map [("pipe", .text fragment.pipe)])
  others : ∀ key ∉ ["version", "strategies", "pipelines"], value.field? key = none

/-! ## What documents say -/

/-- What is written of a stage shows the stage; its strategy is never written over. -/
theorem Stage.shownBy_encode (stage : Stage) : stage.ShownBy stage.encode where
  name := (Table.lookup_cons ..).trans (if_pos rfl)
  config key other := by
    rw [encode, Value.field?, Table.lookup_cons, if_neg other]
    exact Table.lookup_filter_ne other stage.config

/-- What is written of a fragment shows the fragment. -/
theorem Fragment.shownBy_encode (fragment : Fragment) : fragment.ShownBy fragment.encode := by
  constructor
  case version => rfl
  case strategies =>
    refine ⟨_, rfl, ?_⟩
    rw [List.forall₂_map_right_iff, List.forall₂_same]
    exact fun stage _ => stage.shownBy_encode
  case pipelines => rfl
  case others =>
    intro key other
    simp only [List.mem_cons, List.not_mem_nil, or_false, not_or] at other
    obtain ⟨notVersion, notStrategies, notPipelines⟩ := other
    rw [encode, Value.field?, Table.lookup_cons, if_neg notVersion, Table.lookup_cons,
      if_neg notStrategies, Table.lookup_cons, if_neg notPipelines, List.lookup_nil]

/-- The document of a fragment in a sink shows the fragment. -/
theorem Sink.Holds.shows {sink : Sink} {compilation : Compilation} {store : Store}
    {settings : Settings} {graph : Graph} (holds : sink.Holds compilation store settings graph)
    {named : NamedFragment} (member : named ∈ compilation.fragments) :
    ∃ value, sink.get? named.fileName = some (Yaml.render value) ∧ named.fragment.ShownBy value :=
  ⟨_, holds.fragment named member, named.fragment.shownBy_encode⟩

/-! ## Names of documents -/

namespace Settings

variable (settings : Settings)

/-- Fragments of different steps have different file names. -/
theorem fragmentName_injective : Function.Injective settings.fragmentName :=
  fun _ _ same => toString_nat_injective
    ((String.append_right_inj _).mp ((String.append_left_inj _).mp same))

/-- The name of the fragment of a step ends with a number. -/
theorem fragmentName_ne (step : Nat) {name : String} {c : Char}
    (last : name.toList.getLast? = some c) (digit : c.isDigit = false) :
    settings.fragmentName step ≠ name ++ ".yaml" := by
  intro same
  have numbered := (String.append_left_inj ".yaml").mp same
  have nonempty : Nat.toDigits 10 step ≠ [] := Nat.toDigits_ne_nil
  rw [← numbered, String.toList_append, List.getLast?_append, Nat.toString_eq_repr,
    Nat.toList_repr, List.getLast?_eq_some_getLast nonempty, Option.some_or] at last
  have number := Nat.isDigit_of_mem_toDigits (by decide) (by decide) (List.getLast_mem nonempty)
  rw [Option.some.inj last, digit] at number
  cases number

end Settings

namespace Compilation

variable {store : Store} {settings : Settings} {graph : Graph} {compilation : Compilation}

/-- The names of the fragments of steps are numbered from zero. -/
theorem Follows.map_fileName (follows : compilation.Follows store settings graph)
    (nonempty : graph.steps ≠ []) :
    compilation.fragments.map NamedFragment.fileName =
      (List.range graph.steps.length).map settings.fragmentName ++
        [settings.finalFragmentName] := by
  have counted := (follows.counts nonempty).2
  apply List.ext_getElem?
  intro place
  rcases Nat.lt_trichotomy place graph.steps.length with inside | rfl | outside
  · obtain ⟨assembly, _, _, step⟩ := follows.step place _ (List.getElem?_eq_getElem inside)
    rw [List.getElem?_map, step.fragment, List.getElem?_append_left (by simpa using inside),
      List.getElem?_map, List.getElem?_range inside]
    rfl
  · obtain ⟨assembly, final⟩ := follows.final _ (List.getLast?_eq_some_getLast nonempty)
    rw [List.getElem?_map, final.fragment, List.getElem?_append_right (by simp)]
    simp
  · have beyond : graph.steps.length + 1 ≤ place := outside
    rw [List.getElem?_eq_none (by simpa [counted] using beyond),
      List.getElem?_eq_none (by simpa using beyond)]

theorem chainFileName_of_ofGraph (compiled : ofGraph store settings graph = .ok compilation) :
    compilation.chainFileName = settings.chainFileName := by
  obtain ⟨parts, _, compiled⟩ := bind_ok.mp compiled
  cases known : graph.steps.getLast? with
  | none =>
    rw [known] at compiled
    cases compiled
    rfl
  | some last =>
    rw [known] at compiled
    obtain ⟨final, _, compiled⟩ := bind_ok.mp compiled
    cases compiled
    rfl

/-- The chain has the file name that the settings give it. -/
theorem chainFileName_of_compile {description : Description}
    (compiled : compile store settings description = .ok compilation) :
    compilation.chainFileName = settings.chainFileName := by
  rw [compile_eq] at compiled
  obtain ⟨_, _, compiled⟩ := bind_ok.mp compiled
  split at compiled
  · cases compiled
  · exact chainFileName_of_ofGraph compiled

/-- With the usual names no two documents of a compilation have the same one. -/
theorem Follows.nodup_names (follows : compilation.Follows store settings graph)
    (named : compilation.chainFileName = settings.chainFileName) (usual : settings.UsualNames) :
    (compilation.fragments.map NamedFragment.fileName ++ [compilation.chainFileName]).Nodup := by
  rw [named, usual.chain]
  by_cases nothing : graph.steps = []
  · rw [(follows.nothing nothing).2]
    exact List.nodup_singleton _
  · have numbered : ((List.range graph.steps.length).map settings.fragmentName).Nodup :=
      List.nodup_range.map settings.fragmentName_injective
    have others : ∀ step, settings.fragmentName step ≠ ({} : Settings).finalFragmentName ∧
        settings.fragmentName step ≠ ({} : Settings).chainFileName := by
      intro step
      have final : "pipeline_final".toList.getLast? = some 'l' := rfl
      have chain : "workchain".toList.getLast? = some 'n' := rfl
      exact ⟨settings.fragmentName_ne step final rfl, settings.fragmentName_ne step chain rfl⟩
    have fixed : [({} : Settings).finalFragmentName, ({} : Settings).chainFileName].Nodup := by
      decide
    rw [follows.map_fileName nothing, usual.final, List.append_assoc]
    refine numbered.append fixed ?_
    intro name listed other
    obtain ⟨step, _, rfl⟩ := List.mem_map.mp listed
    have ⟨notFinal, notChain⟩ := others step
    simp [notFinal, notChain] at other

/-! ## Writing a compilation -/

/-- What is written is put into the sink, one document after the other. -/
theorem documents_persist (compilation : Compilation) (sink : Sink) :
    (compilation.persist sink).documents =
      compilation.documents.foldl (fun table entry => table.put entry.1 entry.2) sink.documents := by
  have fragments : ∀ (listed : List NamedFragment) (sink : Sink),
      (listed.foldl (fun sink named => sink.writeFragment named.fileName named.fragment)
        sink).documents =
      (listed.map fun named => (named.fileName, named.fragment.render)).foldl
        (fun table entry => table.put entry.1 entry.2) sink.documents := by
    intro listed
    induction listed with
    | nil => exact fun _ => rfl
    | cons named rest ih => exact fun _ => ih _
  rw [documents, List.foldl_append, ← fragments]
  rfl

/-- The names of the documents: first those of the fragments, then that of the chain. -/
theorem keys_documents (compilation : Compilation) :
    Table.keys compilation.documents =
      compilation.fragments.map NamedFragment.fileName ++ [compilation.chainFileName] := by
  rw [Table.keys, documents, List.map_append, List.map_map]
  rfl

/-- The steps of the chain refer to the fragments that are assembled for them. -/
theorem Follows.exists_reference (follows : compilation.Follows store settings graph)
    {place : Nat} {pipeline : PipelineStep}
    (found : compilation.chain.steps[place]? = some (.pipeline pipeline)) :
    ∃ name fragment, pipeline.inputs.pipeline.reference = "file:__DIR__/" ++ name ∧
      ⟨name, fragment⟩ ∈ compilation.fragments ∧
      graph.AssembledFor store settings place fragment := by
  rcases follows.cases_step found with
    ⟨index, node, assembly, _, _, known, step, ⟨rfl, same⟩ | ⟨_, same⟩⟩ |
    ⟨last, assembly, known, final, rfl, same⟩
  · cases same
    exact ⟨_, _, rfl, List.mem_of_getElem? step.fragment, .inputs known step.assembled⟩
  · cases same
  · cases same
    exact ⟨_, _, rfl, List.mem_of_getElem? final.fragment, .outputs known final.assembled⟩

/-- **References resolve.** A compilation that is written into an empty sink stands there, document
by document, and each step of its chain that runs a fragment refers to the document with it. -/
theorem holds_of_compile {root : Description} (usual : settings.UsualNames)
    (compiled : compile store settings root = .ok compilation) :
    ∃ graph, Graph.build root settings.maxDepth = .ok graph ∧
      (compilation.persist .empty).Holds compilation store settings graph := by
  obtain ⟨graph, built, follows⟩ := compile_ok compiled
  have distinct := follows.nodup_names (chainFileName_of_compile compiled) usual
  rw [← keys_documents] at distinct
  have written : (compilation.persist .empty).documents = compilation.documents := by
    rw [documents_persist]
    exact Table.foldl_put_of_nodup distinct
  have names : (compilation.persist .empty).names = Table.keys compilation.documents := by
    rw [Sink.names, written]
  have text : ∀ {name text : String}, (name, text) ∈ compilation.documents →
      (compilation.persist .empty).get? name = some text := by
    intro name text member
    rw [Sink.get?, written]
    exact Table.lookup_of_mem distinct member
  have fragment : ∀ named ∈ compilation.fragments,
      (compilation.persist .empty).get? named.fileName = some named.fragment.render :=
    fun named member => text (List.mem_append_left _ (List.mem_map_of_mem member))
  refine ⟨graph, built, ?_⟩
  constructor
  case names => rw [names, keys_documents]
  case distinct => exact names ▸ distinct
  case fragment => exact fragment
  case chain => exact text (List.mem_append_right _ List.mem_cons_self)
  case reference =>
    intro place pipeline found
    obtain ⟨name, own, reference, member, assembled⟩ := follows.exists_reference found
    exact ⟨name, own, reference, member, assembled, fragment _ member⟩

/-- If the fragments of the workflow with two tools are named after the chain, their documents are
still found. -/
theorem holds_twoTools :
    ∃ compilation graph,
      compile .twoTools { fragmentStem := "workchain" } .twoTools = .ok compilation ∧
      (compilation.persist .empty).Holds compilation .twoTools { fragmentStem := "workchain" }
        graph ∧
      (compilation.persist .empty).names =
        ["workchain_0.yaml", "workchain_1.yaml", "pipeline_final.yaml", "workchain.yaml"] := by
  obtain ⟨compilation, compiled⟩ : ∃ compilation,
      compile .twoTools { fragmentStem := "workchain" } .twoTools = .ok compilation := ⟨_, rfl⟩
  have usual : Settings.UsualNames { fragmentStem := "workchain" } := ⟨rfl, rfl⟩
  obtain ⟨graph, _, holds⟩ := holds_of_compile usual compiled
  refine ⟨compilation, graph, compiled, holds, ?_⟩
  rw [holds.names]
  cases compiled
  rfl

end Compilation

end WorkflowChain
