import WorkflowChain.Data.Table
import WorkflowChain.Text.Split

/-! # Files

A program sees files through an `Access`: it reads them, makes folders, and writes files. `FileTree`
is a tree of files that exists in memory only, with the access to it.
-/

namespace WorkflowChain.Shell

/-- Why a file cannot be had or made. -/
inductive FileError where
  | notFound
  | alreadyExists
  | notADirectory
  | isADirectory
  /-- Any other reason, in the words of the system. -/
  | other (text : String)
  deriving DecidableEq, Repr

/-- The text of an error. -/
def FileError.message : FileError → String
  | .notFound => "No such file or directory (os error 2)"
  | .alreadyExists => "File exists (os error 17)"
  | .notADirectory => "Not a directory (os error 20)"
  | .isADirectory => "Is a directory (os error 21)"
  | .other text => text

/-- How a program sees files. -/
structure Access (m : Type → Type) where
  /-- The text of a file. -/
  read : String → m (Except FileError String)
  /-- Make a folder, and the folders above it, unless they are there. -/
  makeFolder : String → m (Except FileError Unit)
  /-- Write a text to a file. -/
  write : String → String → m (Except FileError Unit)

/-- A name in a folder, as a path. -/
def joinPath (folder name : String) : String :=
  if folder.toList.getLast? = some '/' then folder ++ name else folder ++ "/" ++ name

/-- The names of a path. -/
def pathNames (path : String) : List String :=
  (cut path.toList).map String.ofList
where
  /-- The stretches between slashes, always at least one. -/
  cut : List Char → List (List Char)
    | [] => [[]]
    | c :: rest =>
      if c = '/' then [] :: cut rest
      else match cut rest with
        | [] => [[c]]
        | name :: others => (c :: name) :: others

/-- The names of a path that lead somewhere else: a dot counts only at the start. -/
def essentialNames (path : String) : List String :=
  let isEssential (name : String) : Bool := name ≠ "" && name ≠ "."
  match pathNames path with
  | "." :: rest => "." :: rest.filter isEssential
  | names => names.filter isEssential

/-- The folders that a path leads through on the way to its last name, the nearest first. -/
def foldersAbove (path : String) : List (List String) :=
  let names := essentialNames path
  ((List.range names.length).tail.map (names.take ·)).reverse

/-- The extension of a path: what follows the last dot of the last name, unless the dot comes
first. -/
def extension? (path : String) : Option String :=
  match ((pathNames path).filter fun name => name ≠ "" ∧ name ≠ ".").getLast? with
  | none => none
  | some name =>
    let after := name.toList.reverse.takeWhile (· ≠ '.')
    if name = ".." ∨ name.length ≤ after.length + 1 then none
    else some (String.ofList after.reverse)

/-- A place in a tree of files: the names on the way to it. -/
abbrev Place := List String

/-- A tree of files. -/
structure FileTree where
  /-- The files with their texts. -/
  files : List (Place × String) := []
  /-- The folders that were made, besides those that hold files. -/
  folders : List Place := []
  deriving DecidableEq, Repr

namespace FileTree

/-- The text of the file at a place. -/
def file? (tree : FileTree) (place : Place) : Option String := tree.files.lookup place

/-- Whether there is a folder at a place. -/
def hasFolder (tree : FileTree) (place : Place) : Bool :=
  place.isEmpty || tree.folders.any place.isPrefixOf
    || tree.files.any fun (path, _) => place.isPrefixOf path && place ≠ path

/-- The place that names lead to, from a place that exists. -/
def walk (tree : FileTree) : Place → List String → Except FileError Place
  | here, [] => .ok here
  | here, name :: rest =>
    if (tree.file? here).isSome then .error .notADirectory
    else if name = "" ∨ name = "." then walk tree here rest
    else if name = ".." then walk tree here.dropLast rest
    else
      let next := here ++ [name]
      if (tree.file? next).isSome || tree.hasFolder next then walk tree next rest
      else .error .notFound

/-- The text of the file at a path. -/
def read (tree : FileTree) (path : String) : Except FileError String := do
  match tree.file? (← tree.walk [] (pathNames path)) with
  | some text => return text
  | none => throw .isADirectory

/-- Whether names lead to a folder. -/
def leadsToFolder (tree : FileTree) (names : List String) : Bool :=
  match tree.walk [] names with
  | .ok place => tree.hasFolder place
  | .error _ => false

/-- Make the folder that names lead to, in a folder that is there. Slashes at the end do not count.
-/
def addFolder (tree : FileTree) (names : List String) : Except FileError FileTree := do
  match (names.reverse.dropWhile (· = "")) with
  | [] => throw .notFound
  | name :: above =>
    let here ← tree.walk [] above.reverse
    let place := here ++ [name]
    if (tree.file? here).isSome then throw .notADirectory
    else if name = "." ∨ name = ".." then throw .alreadyExists
    else if (tree.file? place).isSome || tree.hasFolder place then throw .alreadyExists
    else return { tree with folders := tree.folders ++ [place] }

/-- Make the first of some folders, each of which lies in the next. Those around it are made when it
cannot be made without them. A folder that is there already is good too. -/
def addFolders : FileTree → List (List String) → Except FileError FileTree
  | tree, [] => .ok tree
  | tree, names :: above =>
    match tree.addFolder names with
    | .ok tree => .ok tree
    | .error .notFound => do orThere (← addFolders tree above) names
    | .error error => if tree.leadsToFolder names then .ok tree else .error error
where
  /-- Make a folder unless it is there. -/
  orThere (tree : FileTree) (names : List String) : Except FileError FileTree :=
    match tree.addFolder names with
    | .ok tree => .ok tree
    | .error error => if tree.leadsToFolder names then .ok tree else .error error

/-- Make the folder at a path, and the folders above it. -/
def makeFolder (tree : FileTree) (path : String) : Except FileError FileTree :=
  tree.addFolders (pathNames path :: foldersAbove path)

/-- Put a file at a place, instead of an earlier one. -/
def put (tree : FileTree) (place : Place) (text : String) : FileTree :=
  if (tree.file? place).isSome then
    { tree with
      files := tree.files.map fun (path, old) => (path, if path = place then text else old) }
  else { tree with files := tree.files ++ [(place, text)] }

/-- Write a text to the file at a path. -/
def write (tree : FileTree) (path text : String) : Except FileError FileTree := do
  let names := pathNames path
  let folder ← tree.walk [] names.dropLast
  if (tree.file? folder).isSome then throw .notADirectory
  let place := folder ++ names.getLast?.toList
  if tree.hasFolder place then throw .isADirectory
  return tree.put place text

/-- Do something that changes the tree, unless it fails. -/
def attempt (action : FileTree → Except FileError FileTree) :
    StateM FileTree (Except FileError Unit) := do
  match action (← get) with
  | .ok tree =>
    set tree
    return .ok ()
  | .error error => return .error error

/-- The access to a tree of files. -/
def access : Access (StateM FileTree) where
  read path := do return (← get).read path
  makeFolder path := attempt fun tree => tree.makeFolder path
  write path text := attempt fun tree => tree.write path text

/-- The tree of files with the given paths. -/
def ofFiles (files : Table String) : FileTree :=
  { files := files.map fun (path, text) =>
      ((pathNames path).filter fun name => name ≠ "" ∧ name ≠ ".", text) }

/-- The files that are new or have another text than before, by path. -/
def changes (before after : FileTree) : Table String :=
  (after.files.filter fun (place, text) => before.file? place ≠ some text).map
    fun (place, text) => (Text.joinWith "/" place, text)

end FileTree

end WorkflowChain.Shell
