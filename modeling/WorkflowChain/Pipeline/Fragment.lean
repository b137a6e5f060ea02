import WorkflowChain.Pipeline.Stage
import WorkflowChain.Text.Split
import WorkflowChain.Workflow.Node

/-! # Pipeline fragments

A fragment is a list of stages and a pipe: the names of the stages in the order in which data flows
through them, separated by `" | "`. Sources come first and sinks last.
-/

namespace WorkflowChain

/-- What stands between two names of a pipe. -/
def pipeSeparator : String := " | "

/-- The pipe of source names and sink names. A side whose text is empty is left out. -/
def pipeExpression (sources sinks : List String) : String :=
  let left := Text.joinWith pipeSeparator sources
  let right := Text.joinWith pipeSeparator sinks
  if left.isEmpty then right
  else if right.isEmpty then left
  else left ++ pipeSeparator ++ right

/-- The stretches of a text between separators, always at least one. -/
def cutPipe : List Char → List (List Char)
  | [] => [[]]
  | ' ' :: '|' :: ' ' :: rest => [] :: cutPipe rest
  | c :: rest =>
    match cutPipe rest with
    | [] => [[c]]
    | name :: others => (c :: name) :: others

/-- The names of a pipe, in order; an empty pipe has none. -/
def pipeNames (pipe : String) : List String :=
  if pipe.isEmpty then [] else (cutPipe pipe.toList).map String.ofList

/-- The names of stages on the source side and on the sink side of a fragment. -/
structure PipeSides where
  output : List String := []
  input : List String := []
  deriving DecidableEq, Repr

namespace PipeSides

/-- Add a name at the end of a side. -/
def add (sides : PipeSides) (direction : Direction) (name : String) : PipeSides :=
  match direction with
  | .output => { sides with output := sides.output ++ [name] }
  | .input => { sides with input := sides.input ++ [name] }

/-- The pipe: sources first, then sinks. -/
def pipe (sides : PipeSides) : String := pipeExpression sides.output sides.input

end PipeSides

/-- A list of stages and the pipe through them. -/
structure Fragment where
  stages : List Stage := []
  pipe : String := ""
  deriving Repr

namespace Fragment

/-- The version of the fragment format. -/
def version : Nat := 1

/-- The stage of a name. -/
def stage? (fragment : Fragment) (name : String) : Option Stage :=
  Stage.find? fragment.stages name

/-- The names of the pipe, in order. -/
def pipeNames (fragment : Fragment) : List String := WorkflowChain.pipeNames fragment.pipe

/-- A fragment as a document. -/
def encode (fragment : Fragment) : Value :=
  .map [("version", .int version), ("strategies", .list (fragment.stages.map Stage.encode)),
    ("pipelines", .map [("pipe", .text fragment.pipe)])]

end Fragment

end WorkflowChain
