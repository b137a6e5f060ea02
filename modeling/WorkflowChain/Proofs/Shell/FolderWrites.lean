import Mathlib.Data.List.Infix
import WorkflowChain.Proofs.Success
import WorkflowChain.Shell.FileTree

/-! # Writing into a folder

A text that is written into a folder under a name takes the place of the one before it. No other
file changes, and the path of the folder still leads there: on the way to the folder there is never
the file that was written, since the way goes through folders and ends elsewhere. So one text after
the other can be written, and each of them finds what the first one found.
-/

namespace WorkflowChain.Shell

/-! ## Paths -/

theorem cut_ne_nil (text : List Char) : pathNames.cut text ≠ [] := by
  cases text with
  | nil => exact List.cons_ne_nil _ _
  | cons c rest =>
    rw [pathNames.cut]
    split
    · exact List.cons_ne_nil _ _
    · split <;> exact List.cons_ne_nil _ _

/-- A path is cut at each of its slashes. -/
theorem cut_append_slash (before after : List Char) :
    pathNames.cut (before ++ '/' :: after) = pathNames.cut before ++ pathNames.cut after := by
  induction before with
  | nil => rfl
  | cons c rest ih =>
    rw [List.cons_append, pathNames.cut, pathNames.cut, ih]
    by_cases slash : c = '/'
    · rw [if_pos slash, if_pos slash, List.cons_append]
    · rw [if_neg slash, if_neg slash]
      cases below : pathNames.cut rest with
      | nil => exact absurd below (cut_ne_nil rest)
      | cons name others => rfl

theorem cut_of_notMem {name : List Char} (plain : '/' ∉ name) : pathNames.cut name = [name] := by
  induction name with
  | nil => rfl
  | cons c rest ih =>
    rw [List.mem_cons, not_or] at plain
    rw [pathNames.cut, if_neg (Ne.symm plain.1), ih plain.2]

/-- The last name of a path that is joined to a folder is the one that was joined. A slash at the
end of the folder does not count twice. -/
theorem pathNames_joinPath (folder : String) {name : String} (plain : '/' ∉ name.toList) :
    ∃ names, pathNames (joinPath folder name) = names ++ [name] ∧
      (pathNames folder = names ∨ pathNames folder = names ++ [""]) := by
  have last : (pathNames.cut name.toList).map String.ofList = [name] := by
    rw [cut_of_notMem plain, List.map_singleton, String.ofList_toList]
  rw [joinPath]
  split
  next slash =>
    obtain ⟨before, same⟩ := List.getLast?_eq_some_iff.mp slash
    refine ⟨(pathNames.cut before).map String.ofList, ?_, Or.inr ?_⟩
    · rw [pathNames, String.toList_append, same, List.append_assoc, List.singleton_append,
        cut_append_slash, List.map_append, last]
    · rw [pathNames, same, cut_append_slash, List.map_append]
      rfl
  next =>
    refine ⟨pathNames folder, ?_, Or.inl rfl⟩
    have slash : "/".toList = ['/'] := rfl
    rw [pathNames, String.toList_append, String.toList_append, slash, List.append_assoc,
      List.singleton_append, cut_append_slash, List.map_append, last]
    rfl

namespace FileTree

variable {tree : FileTree} {path name : String} {folder place here : Place}

/-! ## Files and folders -/

private theorem lookup_file_cons (wanted path : Place) (text : String)
    (rest : List (Place × String)) :
    List.lookup wanted ((path, text) :: rest) =
      if wanted = path then some text else rest.lookup wanted := by
  rw [List.lookup_cons]
  by_cases same : wanted = path
  · rw [if_pos same, beq_iff_eq.mpr same]
  · rw [if_neg same, beq_eq_false_iff_ne.mpr same]

private theorem lookup_replace (files : List (Place × String)) (place wanted : Place)
    (text : String) :
    (files.map fun (path, old) => (path, if path = place then text else old)).lookup wanted =
      if wanted = place then (files.lookup place).map fun _ => text else files.lookup wanted := by
  induction files with
  | nil => simp
  | cons file rest ih =>
    obtain ⟨path, old⟩ := file
    rw [List.map_cons, lookup_file_cons, lookup_file_cons, lookup_file_cons, ih]
    by_cases here : wanted = path
    · by_cases same : path = place
      · simp [here, same]
      · simp [here, same]
    · by_cases same : wanted = place
      · have other : place ≠ path := same ▸ here
        simp [same, other]
      · simp [here, same]

/-- After a put, the place has the new text and every other one what it had. -/
theorem file?_put (tree : FileTree) (place : Place) (text : String) (wanted : Place) :
    (tree.put place text).file? wanted =
      if wanted = place then some text else tree.file? wanted := by
  rw [put]
  split
  next known =>
    obtain ⟨old, found⟩ := Option.isSome_iff_exists.mp known
    rw [file?] at found
    rw [file?, lookup_replace, found]
    rfl
  next unknown =>
    rw [Option.not_isSome_iff_eq_none, file?] at unknown
    rw [file?, List.lookup_append, lookup_file_cons]
    by_cases same : wanted = place
    · rw [same, unknown, if_pos rfl, if_pos rfl, Option.none_or]
    · rw [if_neg same, if_neg same, List.lookup_nil, Option.or_none, file?]

theorem hasFolder_iff : tree.hasFolder place ↔ place = [] ∨
    (∃ folder ∈ tree.folders, place <+: folder) ∨
      ∃ path ∈ tree.files.map Prod.fst, place <+: path ∧ place ≠ path := by
  simp [hasFolder, or_assoc]

theorem exists_path_of_file (known : (tree.file? place).isSome) :
    place ∈ tree.files.map Prod.fst := by
  obtain ⟨text, found⟩ := Option.isSome_iff_exists.mp known
  obtain ⟨before, after, same, _⟩ := List.lookup_eq_some_iff.mp found
  rw [same, List.map_append, List.map_cons]
  exact List.mem_append_right _ List.mem_cons_self

/-- Above a folder there are folders only. -/
theorem hasFolder_above (below : tree.hasFolder place) (above : here <+: place) :
    tree.hasFolder here := by
  rw [hasFolder_iff] at below ⊢
  rcases below with rfl | ⟨folder, made, inside⟩ | ⟨path, listed, inside, other⟩
  · exact Or.inl (List.prefix_nil.mp above)
  · exact Or.inr (Or.inl ⟨folder, made, above.trans inside⟩)
  · refine Or.inr (Or.inr ⟨path, listed, above.trans inside, ?_⟩)
    rintro rfl
    exact other (inside.eq_of_length_le above.length_le)

/-- A put makes the folders above its place, and no others. -/
theorem hasFolder_put (tree : FileTree) (place : Place) (text : String) (other : Place) :
    (tree.put place text).hasFolder other ↔
      tree.hasFolder other ∨ other <+: place ∧ other ≠ place := by
  rw [hasFolder_iff, hasFolder_iff, put]
  split
  next known =>
    have listed := exists_path_of_file known
    have paths : (tree.files.map fun file =>
        (file.1, if file.1 = place then text else file.2)).map Prod.fst =
          tree.files.map Prod.fst := by
      rw [List.map_map]
      rfl
    rw [paths]
    constructor
    · exact Or.inl
    · rintro (there | ⟨above, different⟩)
      · exact there
      · exact Or.inr (Or.inr ⟨place, listed, above, different⟩)
  next =>
    simp only [List.map_append, List.map_singleton, List.mem_append, List.mem_singleton,
      or_and_right, exists_or, exists_eq_left, or_assoc]

/-! ## Ways -/

/-- A place where there is something. -/
def Has (tree : FileTree) (place : Place) : Prop :=
  (tree.file? place).isSome ∨ tree.hasFolder place

theorem walk_append (tree : FileTree) (here : Place) (names rest : List String) :
    tree.walk here (names ++ rest) =
      tree.walk here names >>= fun place => tree.walk place rest := by
  induction names generalizing here with
  | nil => rfl
  | cons name others ih =>
    rw [List.cons_append, walk, walk]
    split
    · rfl
    · split
      · exact ih _
      · split
        · exact ih _
        · dsimp only
          split
          · exact ih _
          · rfl

/-- What one name of a way does. -/
inductive Step (tree : FileTree) (here : Place) (name : String) : Place → Prop where
  | stay (idle : name = "" ∨ name = ".") : Step tree here name here
  | back (moves : ¬(name = "" ∨ name = ".")) (up : name = "..") : Step tree here name here.dropLast
  | on (moves : ¬(name = "" ∨ name = ".")) (down : ¬name = "..") (has : tree.Has (here ++ [name])) :
    Step tree here name (here ++ [name])

/-- A way goes on from anything but a file, one step after the other. -/
theorem walk_cons_ok {rest : List String} {goal : Place} :
    tree.walk here (name :: rest) = .ok goal ↔
      ¬(tree.file? here).isSome ∧
        ∃ next, tree.Step here name next ∧ tree.walk next rest = .ok goal := by
  rw [walk]
  constructor
  · intro leads
    split at leads
    next => cases leads
    next noFile =>
      refine ⟨noFile, ?_⟩
      split at leads
      next idle => exact ⟨here, .stay idle, leads⟩
      next moves =>
        split at leads
        next up => exact ⟨_, .back moves up, leads⟩
        next down =>
          dsimp only at leads
          split at leads
          next has => exact ⟨_, .on moves down ((Bool.or_eq_true _ _).mp has), leads⟩
          next => cases leads
  · rintro ⟨noFile, next, step, leads⟩
    rw [if_neg noFile]
    cases step with
    | stay idle => rwa [if_pos idle]
    | back moves up => rwa [if_neg moves, if_pos up]
    | on moves down has =>
      rw [if_neg moves, if_neg down]
      exact (if_pos ((Bool.or_eq_true _ _).mpr has)).trans leads

theorem Step.has {next : Place} (step : tree.Step here name next) (isFolder : tree.hasFolder here) :
    tree.Has next := by
  cases step with
  | stay => exact Or.inr isFolder
  | back => exact Or.inr (hasFolder_above isFolder here.dropLast_prefix)
  | on _ _ has => exact has

/-- What is there stays there when a file is written. -/
theorem has_put (tree : FileTree) (place : Place) (text : String) {other : Place}
    (has : tree.Has other) : (tree.put place text).Has other := by
  rcases has with isFile | isFolder
  · refine Or.inl ?_
    rw [file?_put]
    split
    · rfl
    · exact isFile
  · exact Or.inr ((hasFolder_put tree place text other).mpr (Or.inl isFolder))

/-- A step on a way can still be taken when a file was written. -/
theorem Step.put {next : Place} (step : tree.Step here name next) (place : Place) (text : String) :
    (tree.put place text).Step here name next := by
  cases step with
  | stay idle => exact .stay idle
  | back moves up => exact .back moves up
  | on moves down has => exact .on moves down (has_put tree place text has)

/-- From a file no way leads anywhere else. -/
theorem eq_of_walk_file {names : List String} {goal : Place} (isFile : (tree.file? here).isSome)
    (leads : tree.walk here names = .ok goal) : goal = here := by
  cases names with
  | nil =>
    cases leads
    rfl
  | cons name rest => exact absurd isFile (walk_cons_ok.mp leads).1

/-- **A put does not touch a way that ends elsewhere.** -/
theorem walk_put {names : List String} {goal : Place} (noFolder : ¬tree.hasFolder place)
    (other : goal ≠ place) (text : String) (start : tree.Has here)
    (leads : tree.walk here names = .ok goal) :
    (tree.put place text).walk here names = .ok goal := by
  induction names generalizing here with
  | nil =>
    cases leads
    rfl
  | cons name rest ih =>
    -- If the way came to the place of the put, it would end there, for there is no folder.
    have apart : here ≠ place := by
      rintro rfl
      exact other (eq_of_walk_file (start.resolve_right noFolder) leads)
    obtain ⟨noFile, next, step, later⟩ := walk_cons_ok.mp leads
    refine walk_cons_ok.mpr ⟨?_, next, step.put place text, ?_⟩
    · rwa [file?_put, if_neg apart]
    · exact ih (step.has (start.resolve_left noFile)) later

/-! ## Writing -/

/-- A place, unless it is that of a file. -/
def enter (tree : FileTree) (place : Place) : Except FileError Place :=
  if (tree.file? place).isSome then .error .notADirectory else .ok place

/-- The folder that a path leads to. -/
def folderAt (tree : FileTree) (path : String) : Except FileError Place :=
  tree.walk [] (pathNames path) >>= tree.enter

theorem enter_ok : tree.enter place = .ok folder ↔ folder = place ∧ tree.file? place = none := by
  rw [enter]
  cases tree.file? place with
  | none => exact ⟨fun same => ⟨(Except.ok.inj same).symm, rfl⟩, fun ⟨same, _⟩ => same ▸ rfl⟩
  | some text => exact ⟨nofun, fun ⟨_, missing⟩ => nomatch missing⟩

/-- A path leads to a folder if its names lead somewhere, and not to a file. -/
theorem folderAt_ok : tree.folderAt path = .ok folder ↔
    tree.walk [] (pathNames path) = .ok folder ∧ tree.file? folder = none := by
  rw [folderAt, bind_ok]
  constructor
  · rintro ⟨place, leads, entered⟩
    obtain ⟨rfl, noFile⟩ := enter_ok.mp entered
    exact ⟨leads, noFile⟩
  · rintro ⟨leads, noFile⟩
    exact ⟨folder, leads, enter_ok.mpr ⟨rfl, noFile⟩⟩

/-- A slash at the end of a path only asks for a folder. -/
theorem walk_slash (tree : FileTree) (place : Place) : tree.walk place [""] = tree.enter place := by
  rw [walk, enter, if_pos (Or.inl rfl)]
  rfl

theorem enter_enter (tree : FileTree) (place : Place) :
    tree.enter place >>= tree.enter = tree.enter place := by
  by_cases isFile : (tree.file? place).isSome
  · simp only [enter, isFile, ↓reduceIte]
    rfl
  · have entered : tree.enter place = .ok place := if_neg isFile
    rw [entered]
    exact entered

/-- What is written into a folder is put there under its name. -/
theorem write_joinPath (tree : FileTree) (path text : String) (plain : '/' ∉ name.toList) :
    tree.write (joinPath path name) text = tree.folderAt path >>= fun folder =>
      if tree.hasFolder (folder ++ [name]) then .error .isADirectory
      else .ok (tree.put (folder ++ [name]) text) := by
  obtain ⟨names, joined, same⟩ := pathNames_joinPath path plain
  -- A slash at the end asks for a folder, and so does writing: to ask twice is to ask once.
  have found : tree.folderAt path = tree.walk [] names >>= tree.enter := by
    rcases same with same | same
    · rw [folderAt, same]
    · simp only [folderAt, same, walk_append, bind_assoc, walk_slash, enter_enter]
  rw [write, joined, found, List.dropLast_concat, List.getLast?_concat]
  cases tree.walk [] names with
  | error => rfl
  | ok place =>
    change ite _ _ _ = tree.enter place >>= _
    rw [enter]
    split
    · rfl
    · change ite (tree.hasFolder (place ++ [name])) _ _ = ite (tree.hasFolder (place ++ [name])) _ _
      by_cases isFolder : tree.hasFolder (place ++ [name])
      · rw [if_pos isFolder, if_pos isFolder]
        rfl
      · rw [if_neg isFolder, if_neg isFolder]
        rfl

/-! ## Making the folder -/

/-- To make a folder changes no file. -/
theorem files_addFolder {names : List String} {after : FileTree}
    (made : tree.addFolder names = .ok after) : after.files = tree.files := by
  rw [addFolder] at made
  split at made
  · cases made
  · obtain ⟨here, _, made⟩ := bind_ok.mp made
    dsimp only at made
    split at made
    · cases made
    · split at made
      · cases made
      · split at made
        · cases made
        · cases made
          rfl

theorem files_orThere {names : List String} {after : FileTree}
    (made : addFolders.orThere tree names = .ok after) : after.files = tree.files := by
  rw [addFolders.orThere] at made
  split at made
  next own =>
    cases made
    exact files_addFolder own
  next =>
    split at made
    · cases made
      rfl
    · cases made

theorem files_addFolders {ways : List (List String)} {after : FileTree}
    (made : tree.addFolders ways = .ok after) : after.files = tree.files := by
  induction ways generalizing after with
  | nil =>
    cases made
    rfl
  | cons names above ih =>
    rw [addFolders] at made
    split at made
    next own =>
      cases made
      exact files_addFolder own
    next =>
      obtain ⟨around, first, made⟩ := bind_ok.mp made
      exact (files_orThere made).trans (ih first)
    next =>
      split at made
      · cases made
        rfl
      · cases made

/-- Making a folder leaves the files alone. -/
theorem file?_makeFolder {after : FileTree} (made : tree.makeFolder path = .ok after)
    (place : Place) : after.file? place = tree.file? place := by
  rw [file?, files_addFolders made, file?]

/-! ## Writing several texts -/

/-- A path leads to a folder in which nothing stands in the way of documents. -/
structure Admits (tree : FileTree) (path : String) (folder : Place) (documents : Table String) :
    Prop where
  leads : tree.folderAt path = .ok folder
  free : ∀ name ∈ documents.keys, ¬tree.hasFolder (folder ++ [name])

/-- The tree after documents were put into a folder, one after the other. -/
def putAll (tree : FileTree) (folder : Place) (documents : Table String) : FileTree :=
  documents.foldl (fun tree (name, text) => tree.put (folder ++ [name]) text) tree

/-- The path of a folder still leads there when a file was written into the folder. -/
theorem folderAt_put (leads : tree.folderAt path = .ok folder)
    (free : ¬tree.hasFolder (folder ++ [name])) (text : String) :
    (tree.put (folder ++ [name]) text).folderAt path = .ok folder := by
  have ⟨way, noFile⟩ := folderAt_ok.mp leads
  have other : folder ≠ folder ++ [name] := by simp
  refine folderAt_ok.mpr ⟨walk_put free other text (Or.inr rfl) way, ?_⟩
  rw [file?_put, if_neg other, noFile]

/-- Of the names in one folder, none is that of a folder because another one is put there. -/
theorem hasFolder_put_beside (tree : FileTree) (folder : Place) (name text other : String) :
    (tree.put (folder ++ [name]) text).hasFolder (folder ++ [other]) ↔
      tree.hasFolder (folder ++ [other]) := by
  rw [hasFolder_put, or_iff_left]
  rintro ⟨above, different⟩
  exact different (above.eq_of_length (by simp))

/-- **One document after the other.** A folder admits documents exactly if it admits the first, and
the others once the first is there. -/
theorem admits_cons {text : String} {rest : Table String} :
    tree.Admits path folder ((name, text) :: rest) ↔
      tree.folderAt path = .ok folder ∧ ¬tree.hasFolder (folder ++ [name]) ∧
        (tree.put (folder ++ [name]) text).Admits path folder rest := by
  constructor
  · rintro ⟨leads, free⟩
    have ⟨own, others⟩ := List.forall_mem_cons.mp free
    refine ⟨leads, own, folderAt_put leads own text, ?_⟩
    intro other listed
    rw [hasFolder_put_beside]
    exact others other listed
  · rintro ⟨leads, own, admits⟩
    refine ⟨leads, List.forall_mem_cons.mpr ⟨own, ?_⟩⟩
    intro other listed
    have free := admits.free other listed
    rwa [hasFolder_put_beside] at free

/-- The path of a folder still leads there when all documents were written into the folder. -/
theorem folderAt_putAll {documents : Table String} (admits : tree.Admits path folder documents) :
    (tree.putAll folder documents).folderAt path = .ok folder := by
  induction documents generalizing tree with
  | nil => exact admits.leads
  | cons document rest ih => exact ih (admits_cons.mp admits).2.2

/-- Only the places of the documents change. -/
theorem file?_putAll_of_ne {documents : Table String}
    (other : ∀ name ∈ documents.keys, place ≠ folder ++ [name]) :
    (tree.putAll folder documents).file? place = tree.file? place := by
  induction documents generalizing tree with
  | nil => rfl
  | cons document rest ih =>
    have ⟨own, others⟩ := List.forall_mem_cons.mp other
    rw [putAll, List.foldl_cons, ← putAll, ih others, file?_put, if_neg own]

/-- Documents with different names are all there in the end. -/
theorem file?_putAll_of_mem {documents : Table String} (distinct : documents.keys.Nodup)
    {text : String} (member : (name, text) ∈ documents) :
    (tree.putAll folder documents).file? (folder ++ [name]) = some text := by
  induction documents generalizing tree with
  | nil => exact absurd member List.not_mem_nil
  | cons document rest ih =>
    have ⟨fresh, others⟩ := List.nodup_cons.mp distinct
    rcases List.mem_cons.mp member with rfl | later
    · have apart : ∀ other ∈ Table.keys rest, folder ++ [name] ≠ folder ++ [other] := by
        intro other listed same
        have : name = other := by simpa using same
        exact fresh (this ▸ listed)
      rw [putAll, List.foldl_cons, ← putAll, file?_putAll_of_ne apart, file?_put, if_pos rfl]
    · exact ih others later

end FileTree

end WorkflowChain.Shell
