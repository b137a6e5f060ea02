import WorkflowChain.Compile.Sink
import WorkflowChain.Knowledge.Document
import WorkflowChain.Shell.Arguments
import WorkflowChain.Shell.FileTree

/-! # Carrying out commands

A command reads its files, does its work, and only then writes: a compilation that fails leaves no
trace. What it has to say is returned as a text. A failure is reported with what was being done and
with the causes of the failure.
-/

namespace WorkflowChain.Shell

/-- Why a command fails. -/
inductive Problem where
  /-- The workflow cannot be read. -/
  | workflowFile (path : String) (error : FileError)
  /-- The text of the workflow is not a description. -/
  | workflowText (format : Format)
  /-- The resource document cannot be had. -/
  | resources (path : String) (error : DocumentError)
  /-- A resource is wrong. -/
  | resource (error : DocumentError)
  | compilation (failure : Failure)
  /-- A file or a folder cannot be written. -/
  | output (error : FileError)
  deriving Repr

namespace Problem

/-- How the failure to read a format is named. -/
def formatLabel : Format → String
  | .yaml => "YAML error: "
  | .json => "Serialization error: "

/-- What is wrong with the text of a workflow. -/
def notADescription : String := "not a workflow description"

/-- The text of a problem. -/
def message : Problem → String
  | workflowFile path _ => "reading workflow " ++ path
  | workflowText format => formatLabel format ++ notADescription
  | resources path _ => "loading resources from " ++ path
  | resource error => error.message
  | compilation failure => failure.message
  | output error => "IO error: " ++ error.message

/-- The texts of the causes of a problem. No cause has a cause of its own. -/
def causes : Problem → List String
  | workflowFile _ error => [error.message]
  | workflowText _ => [notADescription]
  | resources _ error => [error.message]
  | resource _ => []
  | compilation failure => failure.causes
  | output error => [error.message]

/-- A text whose lines are indented by four blanks. -/
def indented (text : String) : String :=
  text.foldl (fun done c => if c = '\n' then done ++ "\n    " else done.push c) "    "

/-- The report of a problem. -/
def report (problem : Problem) : String :=
  let causes := problem.causes.map indented
  "Error: " ++ problem.message
    ++ (if causes.isEmpty then "" else "\n\nCaused by:\n" ++ Text.joinWith "\n" causes) ++ "\n"

end Problem

/-- What marks a compilation among others. -/
structure Stamp where
  id : String
  time : String
  deriving DecidableEq, Repr

section

variable {m : Type → Type} [Monad m] (access : Access m)

/-- What a command does, if it does not fail. -/
abbrev Task (m : Type → Type) (α : Type) := ExceptT Problem m α

/-- The result of an access to files. -/
def accessed {α : Type} (problem : FileError → Problem) (action : m (Except FileError α)) :
    Task m α :=
  ExceptT.mk do
    match ← action with
    | .ok result => return .ok result
    | .error error => return .error (problem error)

/-- The result of a computation without access to files. -/
def computed {ε α : Type} (problem : ε → Problem) (result : Except ε α) : Task m α :=
  ExceptT.mk (pure (result.mapError problem))

/-- The format of the file at a path: JSON if its extension says so, else YAML. -/
def formatOf (path : String) : Format :=
  if extension? path = some "json" then .json else .yaml

/-- The workflow description in a file. -/
def loadWorkflow (path : String) : Task m Description := do
  let text ← accessed (.workflowFile path) (access.read path)
  match (formatOf path).decode? Description.decoder text with
  | some description => return description
  | none => throw (.workflowText (formatOf path))

/-- The resource document in a file, and a store with its resources. -/
def loadStore (path : String) : Task m (Document × Store) := do
  let text ← accessed
    (fun error => .resources path (.unavailable (path ++ ": " ++ error.message)))
    (access.read path)
  let document ← computed (.resources path) (Document.ofText text)
  let store ← computed .resource document.toStore
  return (document, store)

/-- Write documents into a folder. -/
def writeDocuments (folder : String) : List (String × String) → Task m Unit
  | [] => pure ()
  | (name, text) :: rest => do
    accessed .output (access.write (joinPath folder name) text)
    writeDocuments folder rest

/-- What is said about a compilation whose documents were written to a folder. -/
def summary (stamp : Stamp) (compilation : Compilation) (folder : String) : List String :=
  ["Compilation " ++ stamp.id, "   Compiled at: " ++ stamp.time,
    "   Chain steps: " ++ toString compilation.chain.steps.length]
  ++ (compilation.fragments.map fun named =>
    "   Fragment: " ++ named.fileName ++ " (" ++ named.fragment.pipe ++ ")")
  ++ (compilation.warnings.map fun warning => "   Warning: " ++ warning.message)
  ++ ["   Written to: " ++ folder]

/-- The types of all data resources of a document, as lines. -/
def typeLines (document : Document) (store : Store) : List String :=
  document.data.keys.flatMap fun key =>
    let identifier := document.expand key
    identifier :: (store.typesOf identifier).map ("  • " ++ ·)

/-- Lines as a text. -/
def unlines (lines : List String) : String :=
  lines.foldl (fun done line => done ++ line ++ "\n") ""

/-- Carry out a command. The result is what it has to say. -/
def perform (stamp : Stamp) : Command → Task m String
  | .compile workflow resources out target maxDepth => do
    let description ← loadWorkflow access workflow
    let (_, store) ← loadStore access resources
    let target ← target.mapM fun text => computed .compilation (Target.ofText text)
    let settings : Settings := { maxDepth, target }
    let compilation ← computed .compilation (compile store settings description)
    accessed .output (access.makeFolder out)
    writeDocuments access out compilation.documents
    return unlines (summary stamp compilation out)
  | .inspect resources identifier => do
    let (document, store) ← loadStore access resources
    let descriptor ← computed .compilation (store.descriptor (document.expand identifier))
    return descriptor.render
  | .pipeline resources identifiers => do
    let (document, store) ← loadStore access resources
    let fragment ← computed .compilation
      (Assembly.ofDatasets store (identifiers.map document.expand))
    return fragment.render
  | .types resources => do
    let (document, store) ← loadStore access resources
    return unlines (typeLines document store)

/-- How a command line ended. -/
structure Ending where
  exitCode : Nat
  output : String := ""
  errors : String := ""
  deriving DecidableEq, Repr

/-- How to call the program. -/
def usage : String :=
  unlines
    ["Usage: [-v] COMMAND ...",
      "  compile -w WORKFLOW -r RESOURCES [-o OUT] [-t BACKEND[:LOCATION]] [--max-depth N]",
      "  inspect -r RESOURCES IRI",
      "  pipeline -r RESOURCES IRI...",
      "  types -r RESOURCES"]

/-- Carry out a command line. -/
def run (stamp : Stamp) (arguments : List String) : m Ending := do
  match Command.ofArguments arguments with
  | .error .help => return { exitCode := 0, output := usage }
  | .error .usage => return { exitCode := 2, errors := usage }
  | .ok command =>
    match ← (perform access stamp command).run with
    | .ok output => return { exitCode := 0, output }
    | .error problem => return { exitCode := 1, errors := problem.report }

end

end WorkflowChain.Shell
