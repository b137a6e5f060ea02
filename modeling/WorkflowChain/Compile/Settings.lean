import WorkflowChain.Text.Split
import WorkflowChain.Workflow.Graph

/-! # Settings of a compilation

What a compilation is run with. One of the settings is the target: the store in which final outputs
are documented, which is a backend, and a location if it needs one.
-/

namespace WorkflowChain

/-! ## Target stores -/

/-- A store for the documentation of final outputs. -/
structure Target where
  backend : String
  location : Option String
  deriving DecidableEq, Repr

namespace Target

/-- The backends that are supported. -/
def backends : List String := ["rdflib", "sparqlwrapper", "collection", "fuseki"]

/-- Refuse a target whose backend is not supported. -/
def check (target : Target) : Except Failure Unit :=
  if target.backend ∈ backends then .ok () else .error (.unsupported target.backend)

/-- The target with a backend, which is checked, and a location. -/
def make (backend : String) (location : Option String) : Except Failure Target := do
  let target : Target := ⟨backend, location⟩
  target.check
  return target

/-- The target that `backend` or `backend:location` stands for; an empty location is none. -/
def ofText (text : String) : Except Failure Target :=
  match Text.cutFirst? ':' text with
  | some (backend, location) => make backend (if location.isEmpty then none else some location)
  | none => make text none

/-- A target as the entries of a map. -/
def entries (target : Target) : Table Value :=
  ("backend", .text target.backend)
    :: (target.location.map fun location => ("location", Value.text location)).toList

/-- A target as a value. -/
def encode (target : Target) : Value := .map target.entries

end Target

/-! ## Settings -/

/-- What a compilation is run with. -/
structure Settings where
  /-- How deep descriptions may be nested. -/
  maxDepth : Nat := 64
  /-- The engine workflow that runs fragments. -/
  pipelineWorkflow : String := "execflow.oteapipipeline"
  /-- How the file names of the fragments of steps begin. -/
  fragmentStem : String := "pipeline"
  /-- The file name of the final fragment. -/
  finalFragmentName : String := "pipeline_final.yaml"
  /-- The file name of the chain. -/
  chainFileName : String := "workchain.yaml"
  /-- Where final outputs are documented. -/
  target : Option Target := none
  deriving DecidableEq, Repr, Inhabited

/-- The file name of the fragment of a step. -/
def Settings.fragmentName (settings : Settings) (step : Nat) : String :=
  settings.fragmentStem ++ "_" ++ toString step ++ ".yaml"

end WorkflowChain
