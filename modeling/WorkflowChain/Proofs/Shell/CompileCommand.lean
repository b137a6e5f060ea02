import WorkflowChain.Proofs.Compile.Documents
import WorkflowChain.Proofs.Shell.FolderWrites
import WorkflowChain.Shell.Session

/-! # What the compile command leaves behind

The command has two parts. The first reads the two files, populates a store, reads the target and
compiles; it writes nothing, whether or not it comes to a compilation. The second makes the folder
and writes the documents. So a compilation that does not come about leaves the files as they were,
and one that does leaves its documents in the folder and nothing else.
-/

namespace WorkflowChain.Shell

/-! ## Tasks in a tree of files -/

/-- The result of a task in a tree of files, and the tree that it leaves behind. -/
def outcome {α : Type} (task : Task (StateM FileTree) α) (tree : FileTree) :
    Except Problem α × FileTree :=
  (task.run.run tree).run

section

variable {α β : Type} {task : Task (StateM FileTree) α} {next : α → Task (StateM FileTree) β}
  {tree after : FileTree}

theorem outcome_bind_ok {value : α} (ran : outcome task tree = (.ok value, after)) :
    outcome (task >>= next) tree = outcome (next value) after :=
  run_bind_ok ran

theorem outcome_bind_error {problem : Problem}
    (failed : outcome task tree = (.error problem, after)) :
    outcome (task >>= next) tree = (.error problem, after) :=
  run_bind_error failed

theorem outcome_bind {result : β} :
    outcome (task >>= next) tree = (.ok result, after) ↔
      ∃ value between, outcome task tree = (.ok value, between) ∧
        outcome (next value) between = (.ok result, after) := by
  rcases ran : outcome task tree with ⟨first, between⟩
  cases first with
  | error problem =>
    rw [outcome_bind_error ran]
    exact ⟨nofun, nofun⟩
  | ok value =>
    rw [outcome_bind_ok ran]
    constructor
    · exact fun later => ⟨value, between, rfl, later⟩
    · rintro ⟨_, _, same, later⟩
      cases same
      exact later

/-- A task finds what has a property, and fails if there is no such thing. It changes no file. -/
def Finds (task : Task (StateM FileTree) α) (tree : FileTree) (Found : α → Prop) : Prop :=
  ∃ result, outcome task tree = (result, tree) ∧ ∀ value, result = .ok value ↔ Found value

/-- What two tasks find one after the other is found step by step. -/
theorem Finds.bind {Found : α → Prop} {Then : α → β → Prop} (first : Finds task tree Found)
    (second : ∀ value, Found value → Finds (next value) tree (Then value)) :
    Finds (task >>= next) tree fun result => ∃ value, Found value ∧ Then value result := by
  obtain ⟨result, ran, found⟩ := first
  cases result with
  | error problem =>
    refine ⟨.error problem, outcome_bind_error ran, fun _ => ⟨nofun, ?_⟩⟩
    rintro ⟨value, has, _⟩
    exact nomatch (found value).mpr has
  | ok value =>
    have has := (found value).mp rfl
    obtain ⟨result, later, ends⟩ := second value has
    refine ⟨result, (outcome_bind_ok ran).trans later, fun last => ?_⟩
    rw [ends]
    constructor
    · exact fun this => ⟨value, has, this⟩
    · rintro ⟨other, same, this⟩
      cases (found other).mpr same
      exact this

theorem finds_pure (value : α) (tree : FileTree) :
    Finds (pure value : Task (StateM FileTree) α) tree (value = ·) :=
  ⟨.ok value, rfl, fun _ => ⟨Except.ok.inj, congrArg _⟩⟩

theorem finds_throw (problem : Problem) (tree : FileTree) :
    Finds (throw problem : Task (StateM FileTree) α) tree fun _ => False :=
  ⟨.error problem, rfl, fun _ => ⟨nofun, False.elim⟩⟩

theorem Finds.congr {Found Other : α → Prop} (finds : Finds task tree Found)
    (same : ∀ value, Found value ↔ Other value) : Finds task tree Other := by
  obtain ⟨result, ran, found⟩ := finds
  exact ⟨result, ran, fun value => (found value).trans (same value)⟩

/-- A task whose result is computed from the tree finds what is computed. -/
theorem finds_mapError {ε : Type} {problem : ε → Problem} {result : Except ε α}
    (ran : outcome task tree = (result.mapError problem, tree)) :
    Finds task tree (result = .ok ·) := by
  refine ⟨_, ran, fun value => ?_⟩
  cases result with
  | error => exact ⟨nofun, nofun⟩
  | ok own => simp only [Except.mapError, Except.ok.injEq]

/-- A computation finds its result and writes nothing. -/
theorem finds_computed {ε : Type} (problem : ε → Problem) (result : Except ε α)
    (tree : FileTree) : Finds (computed problem result) tree (result = .ok ·) :=
  finds_mapError rfl

/-- An access to files that fails is told as a problem. -/
theorem outcome_accessed {problem : FileError → Problem}
    {action : StateM FileTree (Except FileError α)} {result : Except FileError α}
    (ran : (action.run tree).run = (result, after)) :
    outcome (accessed problem action) tree = (result.mapError problem, after) := by
  rw [outcome, accessed, ExceptT.run_mk, StateT.run_bind, Id.run_bind, ran]
  cases result <;> rfl

theorem finds_read (problem : FileError → Problem) (path : String) (tree : FileTree) :
    Finds (accessed problem (FileTree.access.read path)) tree (tree.read path = .ok ·) :=
  finds_mapError (outcome_accessed rfl)

/-- An access that changes the tree succeeds exactly if the change does. -/
theorem outcome_attempt {problem : FileError → Problem}
    {action : FileTree → Except FileError FileTree} :
    outcome (accessed problem (FileTree.attempt action)) tree = (.ok (), after) ↔
      action tree = .ok after := by
  cases done : action tree with
  | ok changed =>
    have ran : ((FileTree.attempt action).run tree).run = (.ok (), changed) := by
      rw [FileTree.attempt, StateT.run_bind, Id.run_bind, StateT.run_get, Id.run_pure, done]
      rfl
    rw [outcome_accessed ran]
    simp only [Except.mapError, Prod.mk.injEq, Except.ok.injEq, true_and]
  | error error =>
    have ran : ((FileTree.attempt action).run tree).run = (.error error, tree) := by
      rw [FileTree.attempt, StateT.run_bind, Id.run_bind, StateT.run_get, Id.run_pure, done]
      rfl
    rw [outcome_accessed ran]
    exact ⟨nofun, nofun⟩

end

/-! ## The part that writes nothing -/

/-- The file at a path describes a workflow. -/
def FileTree.Describes (tree : FileTree) (path : String) (description : Description) : Prop :=
  ∃ text, tree.read path = .ok text ∧
    (formatOf path).decode? Description.decoder text = some description

/-- The file at a path is a resource document, with which a store can be populated. -/
def FileTree.Populates (tree : FileTree) (path : String) (document : Document) (store : Store) :
    Prop :=
  ∃ text, tree.read path = .ok text ∧ Document.ofText text = .ok document ∧
    document.toStore = .ok store

/-- The files are loaded, the store is populated, the target is read, and then the workflow is
compiled: none of it fails, and this is the compilation. -/
inductive FileTree.Yields (tree : FileTree) (workflow resources : String) (target : Option String)
    (maxDepth : Nat) : Compilation → Prop where
  | compiled {description : Description} {document : Document} {store : Store}
      {aim : Option Target} {compilation : Compilation}
      (described : tree.Describes workflow description)
      (populated : tree.Populates resources document store)
      (aimed : target.mapM Target.ofText = .ok aim)
      (compiled : compile store { maxDepth, target := aim } description = .ok compilation) :
      Yields tree workflow resources target maxDepth compilation

section

variable (workflow resources : String) (target : Option String) (maxDepth : Nat) (tree : FileTree)

/-- What the compile command does before it writes. -/
def compiling : Task (StateM FileTree) Compilation := do
  let description ← loadWorkflow FileTree.access workflow
  let (_, store) ← loadStore FileTree.access resources
  let aim ← target.mapM fun text => computed .compilation (Target.ofText text)
  computed .compilation (compile store { maxDepth, target := aim } description)

theorem finds_loadWorkflow :
    Finds (loadWorkflow FileTree.access workflow) tree (tree.Describes workflow) := by
  refine (finds_read _ workflow tree).bind fun text _ => ?_
  cases (formatOf workflow).decode? Description.decoder text with
  | none => exact (finds_throw _ tree).congr fun _ => ⟨False.elim, nofun⟩
  | some description => exact (finds_pure description tree).congr fun _ => Option.some_inj.symm

/-- A store is loaded from the resource document in its file. -/
theorem finds_loadStore :
    Finds (loadStore FileTree.access resources) tree fun loaded =>
      tree.Populates resources loaded.1 loaded.2 := by
  have found := (finds_read
      (fun error => .resources resources (.unavailable (resources ++ ": " ++ error.message)))
      resources tree).bind fun text _ =>
    (finds_computed (.resources resources) (Document.ofText text) tree).bind fun document _ =>
      (finds_computed .resource document.toStore tree).bind fun store _ =>
        finds_pure (document, store) tree
  refine found.congr fun loaded => ?_
  constructor
  · rintro ⟨text, read, document, known, store, populated, rfl⟩
    exact ⟨text, read, known, populated⟩
  · rintro ⟨text, read, known, populated⟩
    exact ⟨text, read, loaded.1, known, loaded.2, populated, rfl⟩

/-- The target is read from its text, if there is one. -/
theorem finds_target :
    Finds (target.mapM fun text => computed .compilation (Target.ofText text) :
      Task (StateM FileTree) (Option Target)) tree (target.mapM Target.ofText = .ok ·) := by
  cases target with
  | none => exact (finds_pure none tree).congr fun _ => (Except.ok.injEq _ _).symm ▸ Iff.rfl
  | some text =>
    have found := (finds_computed .compilation (Target.ofText text) tree).bind
      fun aim _ => finds_pure (some aim) tree
    rw [Option.mapM_some, map_eq_pure_bind]
    refine found.congr fun aim => ?_
    rw [Option.mapM_some, map_eq_pure_bind, bind_ok]
    exact exists_congr fun own => and_congr_right fun _ => (Except.ok.injEq _ _).symm ▸ Iff.rfl

/-- **The first part finds the compilation, if there is one.** -/
theorem finds_compiling :
    Finds (compiling workflow resources target maxDepth) tree
      (tree.Yields workflow resources target maxDepth) := by
  have found := (finds_loadWorkflow workflow tree).bind fun description _ =>
    (finds_loadStore resources tree).bind fun loaded _ =>
      (finds_target target tree).bind fun aim _ => finds_computed .compilation
        (compile loaded.2 { maxDepth, target := aim } description) tree
  refine found.congr fun compilation => ?_
  constructor
  · rintro ⟨description, described, loaded, populated, aim, aimed, compiled⟩
    exact .compiled described populated aimed compiled
  · rintro ⟨described, populated, aimed, compiled⟩
    exact ⟨_, described, (_, _), populated, _, aimed, compiled⟩

/-- The command finds the compilation first, then it makes the folder, and then it writes. -/
theorem perform_compile (stamp : Stamp) (out : String) :
    perform FileTree.access stamp (.compile workflow resources out target maxDepth) = do
      let compilation ← compiling workflow resources target maxDepth
      accessed .output (FileTree.access.makeFolder out)
      writeDocuments FileTree.access out compilation.documents
      return unlines (summary stamp compilation out) := by
  simp only [perform, compiling, bind_assoc]

end

/-! ## The part that writes -/

/-- Fragments of steps have file names without slashes. -/
theorem notMem_fragmentName (settings : Settings) (step : Nat)
    (plain : '/' ∉ settings.fragmentStem.toList) :
    '/' ∉ (settings.fragmentName step).toList := by
  have number : '/' ∉ (toString step).toList := by
    intro member
    rw [Nat.toString_eq_repr, Nat.toList_repr] at member
    have digit := Nat.isDigit_of_mem_toDigits (by decide) (by decide) member
    cases digit
  have underline : '/' ∉ "_".toList := by decide
  have extension : '/' ∉ ".yaml".toList := by decide
  simp only [Settings.fragmentName, String.toList_append, List.mem_append, plain, underline, number,
    extension, or_self, not_false_eq_true]

/-- The names of the documents are those of files in the folder. -/
theorem plain_documents {store : Store} {description : Description} {maxDepth : Nat}
    {aim : Option Target} {compilation : Compilation}
    (compiled : compile store { maxDepth, target := aim } description = .ok compilation) :
    ∀ name ∈ Table.keys compilation.documents, '/' ∉ name.toList := by
  obtain ⟨graph, _, follows⟩ := Compilation.compile_ok compiled
  have chain : '/' ∉ ({} : Settings).chainFileName.toList := by decide
  have final : '/' ∉ ({} : Settings).finalFragmentName.toList := by decide
  have stem : '/' ∉ ({} : Settings).fragmentStem.toList := by decide
  intro name listed
  rw [Compilation.keys_documents, Compilation.chainFileName_of_compile compiled,
    List.mem_append, List.mem_singleton] at listed
  rcases listed with ofFragment | rfl
  · by_cases nothing : graph.steps = []
    · rw [(follows.nothing nothing).2] at ofFragment
      exact absurd ofFragment List.not_mem_nil
    · rw [follows.map_fileName nothing, List.mem_append, List.mem_singleton] at ofFragment
      rcases ofFragment with ofStep | rfl
      · obtain ⟨step, _, rfl⟩ := List.mem_map.mp ofStep
        exact notMem_fragmentName _ step stem
      · exact final
  · exact chain

/-- No document of a compilation is written over another. -/
theorem distinct_documents {store : Store} {description : Description} {maxDepth : Nat}
    {aim : Option Target} {compilation : Compilation}
    (compiled : compile store { maxDepth, target := aim } description = .ok compilation) :
    (Table.keys compilation.documents).Nodup := by
  obtain ⟨graph, _, follows⟩ := Compilation.compile_ok compiled
  rw [Compilation.keys_documents]
  exact follows.nodup_names (Compilation.chainFileName_of_compile compiled) ⟨rfl, rfl⟩

/-- A document is written exactly if the folder is there and holds no folder of its name. -/
theorem outcome_write {tree after : FileTree} {out name text : String} (plain : '/' ∉ name.toList) :
    outcome (accessed .output (FileTree.access.write (joinPath out name) text)) tree =
        (.ok (), after) ↔
      ∃ folder, tree.folderAt out = .ok folder ∧ ¬tree.hasFolder (folder ++ [name]) ∧
        after = tree.put (folder ++ [name]) text := by
  refine outcome_attempt.trans ?_
  rw [FileTree.write_joinPath tree out text plain, bind_ok]
  refine exists_congr fun folder => and_congr_right fun _ => ?_
  by_cases inTheWay : tree.hasFolder (folder ++ [name])
  · rw [if_pos inTheWay]
    exact ⟨nofun, fun ⟨free, _⟩ => absurd inTheWay free⟩
  · rw [if_neg inTheWay]
    constructor
    · intro put
      exact ⟨inTheWay, (Except.ok.inj put).symm⟩
    · rintro ⟨_, rfl⟩
      rfl

/-- Documents are written into a folder exactly if it admits them. -/
theorem outcome_writeDocuments {tree after : FileTree} {out : String} {folder : Place}
    {documents : Table String} (leads : tree.folderAt out = .ok folder)
    (plain : ∀ name ∈ documents.keys, '/' ∉ name.toList) :
    outcome (writeDocuments FileTree.access out documents) tree = (.ok (), after) ↔
      tree.Admits out folder documents ∧ after = tree.putAll folder documents := by
  -- The path leads to the folder also when the first document is there, and so on.
  induction documents generalizing tree with
  | nil =>
    constructor
    · intro done
      cases done
      exact ⟨⟨leads, nofun⟩, rfl⟩
    · rintro ⟨_, rfl⟩
      rfl
  | cons document rest ih =>
    obtain ⟨name, text⟩ := document
    have ⟨own, others⟩ := List.forall_mem_cons.mp plain
    rw [writeDocuments, outcome_bind, FileTree.admits_cons]
    constructor
    · rintro ⟨_, between, first, later⟩
      obtain ⟨_, known, free, rfl⟩ := (outcome_write own).mp first
      cases leads.symm.trans known
      have ⟨admits, done⟩ := (ih (FileTree.folderAt_put leads free text) others).mp later
      exact ⟨⟨leads, free, admits⟩, done⟩
    · rintro ⟨⟨_, free, admits⟩, done⟩
      exact ⟨(), _, (outcome_write own).mpr ⟨folder, leads, free, rfl⟩,
        (ih (FileTree.folderAt_put leads free text) others).mpr ⟨admits, done⟩⟩

/-- If any document is written, the path leads to a folder. -/
theorem exists_folder_of_writeDocuments {tree after : FileTree} {out : String}
    {documents : Table String} (nonempty : documents ≠ [])
    (plain : ∀ name ∈ documents.keys, '/' ∉ name.toList)
    (written : outcome (writeDocuments FileTree.access out documents) tree = (.ok (), after)) :
    ∃ folder, tree.folderAt out = .ok folder := by
  cases documents with
  | nil => exact absurd rfl nonempty
  | cons document rest =>
    have own := (List.forall_mem_cons.mp plain).1
    obtain ⟨_, _, first, _⟩ := outcome_bind.mp written
    obtain ⟨folder, leads, _⟩ := (outcome_write own).mp first
    exact ⟨folder, leads⟩

/-! ## The whole command -/

/-- The files accept the documents of a compilation: the folder is there or can be made, and nothing
stands in the way of the documents. -/
structure FileTree.Accepts (tree : FileTree) (out : String) (compilation : Compilation)
    (made : FileTree) (folder : Place) : Prop where
  makes : tree.makeFolder out = .ok made
  admits : made.Admits out folder compilation.documents

/-- The documents of a compilation stand in a folder, and everything else is as before. -/
structure FileTree.Receives (tree : FileTree) (out : String) (compilation : Compilation)
    (after : FileTree) (folder : Place) : Prop where
  leads : after.folderAt out = .ok folder
  fragment : ∀ named ∈ compilation.fragments,
    after.file? (folder ++ [named.fileName]) = some named.fragment.render
  chain : after.file? (folder ++ [compilation.chainFileName]) = some compilation.chain.render
  kept : ∀ place, (∀ named ∈ compilation.fragments, place ≠ folder ++ [named.fileName]) →
    place ≠ folder ++ [compilation.chainFileName] → after.file? place = tree.file? place

/-- The document of a fragment in the folder shows the fragment. -/
theorem FileTree.Receives.shows {tree after : FileTree} {out : String} {compilation : Compilation}
    {folder : Place} (receives : tree.Receives out compilation after folder)
    {named : NamedFragment} (member : named ∈ compilation.fragments) :
    ∃ value, after.file? (folder ++ [named.fileName]) = some (Yaml.render value) ∧
      named.fragment.ShownBy value :=
  ⟨_, receives.fragment named member, named.fragment.shownBy_encode⟩

/-- How a command line ends in a tree of files, and the tree that it leaves behind. -/
def ending (stamp : Stamp) (arguments : List String) (tree : FileTree) : Ending × FileTree :=
  ((run FileTree.access stamp arguments).run tree).run

/-- How the program ends is told by the outcome of its command. -/
theorem ending_eq {arguments : List String} {command : Command}
    (parsed : Command.ofArguments arguments = .ok command) (stamp : Stamp) (tree : FileTree) :
    ending stamp arguments tree =
      match outcome (perform FileTree.access stamp command) tree with
      | (.ok output, after) => ({ exitCode := 0, output }, after)
      | (.error problem, after) => ({ exitCode := 1, errors := problem.report }, after) := by
  rw [ending, run, parsed]
  dsimp only
  rw [StateT.run_bind, Id.run_bind, ← outcome]
  rcases outcome (perform FileTree.access stamp command) tree with ⟨problem | output, after⟩ <;> rfl

theorem receives_putAll {tree made : FileTree} {out : String} {folder : Place}
    {compilation : Compilation} (accepts : tree.Accepts out compilation made folder)
    (distinct : (Table.keys compilation.documents).Nodup) :
    tree.Receives out compilation (made.putAll folder compilation.documents) folder where
  leads := FileTree.folderAt_putAll accepts.admits
  fragment named member := FileTree.file?_putAll_of_mem distinct
    (List.mem_append_left _ (List.mem_map_of_mem member))
  chain := FileTree.file?_putAll_of_mem distinct (List.mem_append_right _ List.mem_cons_self)
  kept place others chain := by
    have apart : ∀ name ∈ Table.keys compilation.documents, place ≠ folder ++ [name] := by
      intro name listed
      rw [Compilation.keys_documents, List.mem_append, List.mem_singleton] at listed
      rcases listed with ofFragment | rfl
      · obtain ⟨named, member, rfl⟩ := List.mem_map.mp ofFragment
        exact others named member
      · exact chain
    rw [FileTree.file?_putAll_of_ne apart, FileTree.file?_makeFolder accepts.makes]

/-- If the files yield a compilation, the command succeeds exactly if they accept its documents. -/
theorem perform_ok {tree after : FileTree} {stamp : Stamp} {out output : String}
    {workflow resources : String} {target : Option String} {maxDepth : Nat}
    {compilation : Compilation}
    (yields : tree.Yields workflow resources target maxDepth compilation) :
    outcome (perform FileTree.access stamp (.compile workflow resources out target maxDepth)) tree =
        (.ok output, after) ↔
      ∃ made folder, tree.Accepts out compilation made folder ∧
        after = made.putAll folder compilation.documents ∧
        output = unlines (summary stamp compilation out) := by
  have plain : ∀ name ∈ Table.keys compilation.documents, '/' ∉ name.toList := by
    obtain ⟨_, _, _, compiled⟩ := yields
    exact plain_documents compiled
  -- There is only one compilation to be found, so this is the one whose documents are written.
  obtain ⟨result, found, finds⟩ := finds_compiling workflow resources target maxDepth tree
  cases (finds compilation).mpr yields
  rw [perform_compile, outcome_bind_ok found, outcome_bind]
  constructor
  · rintro ⟨_, made, folderMade, written⟩
    obtain ⟨_, last, written, said⟩ := outcome_bind.mp written
    obtain ⟨folder, leads⟩ := exists_folder_of_writeDocuments (by simp [Compilation.documents])
      plain written
    obtain ⟨admits, rfl⟩ := (outcome_writeDocuments leads plain).mp written
    cases said
    exact ⟨made, folder, ⟨outcome_attempt.mp folderMade, admits⟩, rfl, rfl⟩
  · rintro ⟨made, folder, accepts, rfl, rfl⟩
    have written := (outcome_writeDocuments accepts.admits.leads plain).mpr ⟨accepts.admits, rfl⟩
    exact ⟨(), made, outcome_attempt.mpr accepts.makes, outcome_bind_ok written⟩

/-- **All or nothing.** If the files do not yield a compilation, the command fails and no file or
folder changes. If they do, it succeeds exactly if the files accept the documents, and then these
stand in the folder and everything else is as before. -/
theorem ending_of_compile {arguments : List String} {workflow resources out : String}
    {target : Option String} {maxDepth : Nat}
    (parsed : Command.ofArguments arguments =
      .ok (.compile workflow resources out target maxDepth)) (stamp : Stamp) (tree : FileTree) :
    ((∀ compilation, ¬tree.Yields workflow resources target maxDepth compilation) →
      ∃ problem : Problem,
        ending stamp arguments tree = ({ exitCode := 1, errors := problem.report }, tree)) ∧
    ∀ compilation, tree.Yields workflow resources target maxDepth compilation →
      ((ending stamp arguments tree).1.exitCode = 0 ↔
        ∃ made folder, tree.Accepts out compilation made folder) ∧
      ∀ made folder, tree.Accepts out compilation made folder →
        tree.Receives out compilation (ending stamp arguments tree).2 folder := by
  rw [ending_eq parsed]
  constructor
  · intro nothing
    obtain ⟨result, found, finds⟩ := finds_compiling workflow resources target maxDepth tree
    cases result with
    | error problem =>
      rw [perform_compile, outcome_bind_error found]
      exact ⟨problem, rfl⟩
    | ok compilation => exact absurd ((finds compilation).mp rfl) (nothing compilation)
  · intro compilation yields
    have distinct : (Table.keys compilation.documents).Nodup := by
      obtain ⟨_, _, _, compiled⟩ := yields
      exact distinct_documents compiled
    refine ⟨?_, ?_⟩
    · rcases ran : outcome (perform FileTree.access stamp
        (.compile workflow resources out target maxDepth)) tree with ⟨problem | output, after⟩
      · refine ⟨nofun, ?_⟩
        rintro ⟨made, folder, accepts⟩
        cases ran.symm.trans ((perform_ok yields).mpr ⟨made, folder, accepts, rfl, rfl⟩)
      · refine ⟨fun _ => ?_, fun _ => rfl⟩
        obtain ⟨made, folder, accepts, _⟩ := (perform_ok yields).mp ran
        exact ⟨made, folder, accepts⟩
    · intro made folder accepts
      rw [(perform_ok yields).mpr ⟨made, folder, accepts, rfl, rfl⟩]
      exact receives_putAll accepts distinct

/-- A workflow with one tool, and a resource document with the tool. -/
def FileTree.oneTool : FileTree where
  files :=
    [(["w.yaml"], "iri: A\nchildren:\n- iri: T\n  predicate: hasOutput\n"),
      (["r.yaml"], "simulation_resources:\n  T:\n    aiida_plugin: g\n    command: g\n" ++
        "    output:\n      A:\n      - dataresource:\n          downloadUrl: a\n" ++
        "          mediaType: t\n")]

/-- The documents of a workflow with one tool are written into a new folder. For a target that is
not supported the folder is not even made. -/
theorem ending_of_compile_oneTool :
    (∃ compilation,
      FileTree.oneTool.Yields "w.yaml" "r.yaml" none 64 compilation ∧
      (ending ⟨"", ""⟩ ["compile", "-w", "w.yaml", "-r", "r.yaml", "-o", "out"]
        .oneTool).1.exitCode = 0 ∧
      FileTree.oneTool.Receives "out" compilation
        (ending ⟨"", ""⟩ ["compile", "-w", "w.yaml", "-r", "r.yaml", "-o", "out"] .oneTool).2
        ["out"]) ∧
    ∃ problem : Problem,
      ending ⟨"", ""⟩ ["compile", "-w", "w.yaml", "-r", "r.yaml", "-o", "out", "-t", "sqlite"]
        .oneTool = ({ exitCode := 1, errors := problem.report }, .oneTool) := by
  constructor
  · obtain ⟨compilation, yields⟩ :
        ∃ compilation, FileTree.oneTool.Yields "w.yaml" "r.yaml" none 64 compilation := by
      have compiles : (outcome (compiling "w.yaml" "r.yaml" none 64) .oneTool).1.isOk := by
        decide +kernel
      obtain ⟨result, found, finds⟩ := finds_compiling "w.yaml" "r.yaml" none 64 .oneTool
      rw [found] at compiles
      cases result with
      | error => cases compiles
      | ok compilation => exact ⟨compilation, (finds compilation).mp rfl⟩
    have accepts : FileTree.oneTool.Accepts "out" compilation
        { FileTree.oneTool with folders := [["out"]] } ["out"] := by
      refine ⟨rfl, rfl, fun name _ => ?_⟩
      simp [FileTree.hasFolder_iff, FileTree.oneTool]
    have parsed : Command.ofArguments ["compile", "-w", "w.yaml", "-r", "r.yaml", "-o", "out"] =
        .ok (.compile "w.yaml" "r.yaml" "out" none 64) := rfl
    have ⟨succeeds, receives⟩ := (ending_of_compile parsed ⟨"", ""⟩ .oneTool).2 compilation yields
    exact ⟨compilation, yields, succeeds.mpr ⟨_, _, accepts⟩, receives _ _ accepts⟩
  · have parsed : Command.ofArguments
          ["compile", "-w", "w.yaml", "-r", "r.yaml", "-o", "out", "-t", "sqlite"] =
        .ok (.compile "w.yaml" "r.yaml" "out" (some "sqlite") 64) := rfl
    apply (ending_of_compile parsed ⟨"", ""⟩ .oneTool).1
    rintro compilation ⟨_, _, aimed, _⟩
    cases aimed

end WorkflowChain.Shell
