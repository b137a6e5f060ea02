import WorkflowChain.Pipeline.Fragment
import WorkflowChain.Workflow.Graph

/-! # Adapters

Sources give native data, which has to be wrapped into a container before sinks can read it. Sinks
that read files need the files extracted from the container and collected afterwards. `decorate`
adds the stages that do so. Each has a fixed name and is added only if no stage has that name, so
decorating twice changes nothing more.
-/

namespace WorkflowChain

/-- The name of the stage that wraps sources into the container. -/
def wrapName : String := "datanode2cuds"

/-- The name of the stage that collects files from the container. -/
def collectName : String := "cuds2datanode"

/-- The function that wraps sources into the container. -/
def wrapFunction : String := "aiidacuds/datanode2cuds"

/-- The function that collects files from the container. -/
def collectFunction : String := "aiidacuds/cuds2datanode"

/-- The function that extracts a file from the container. -/
def extractFunction : String := "application/vnd.dlite-file2collection"

/-- The name of the stage that extracts the file of a sink. -/
def extractName (origin : String) : String := origin ++ "_file2collection"

/-- The stage that wraps the given sources. -/
def wrapStage (sources : List String) : Stage :=
  .function .adapter wrapName wrapFunction [("to_cuds", .texts sources)]

/-- The stage that extracts the file at a location for a sink. -/
def extractStage (location origin : String) : Stage :=
  .function .adapter (extractName origin) extractFunction
    [("label", .text origin), ("location", .text location)]

/-- The stage that collects the files with the given labels. -/
def collectStage (labels : List String) : Stage :=
  .function .adapter collectName collectFunction [("from_cuds", .texts labels)]

/-- The first name that an earlier stage has already, if there is one. -/
def firstRepeated? : List String → List String → Option String
  | _, [] => none
  | seen, name :: rest => if name ∈ seen then some name else firstRepeated? (name :: seen) rest

/-- Refuse stages that share a name. -/
def checkUniqueNames (stages : List Stage) : Except Failure Unit :=
  match firstRepeated? [] (stages.map Stage.name) with
  | some name => .error (.conflict name)
  | none => .ok ()

/-- Stages with the names of a fragment's sides. -/
abbrev Sided := List Stage × PipeSides

/-- Put a wrap stage in front of the sources, if one of them is a function. -/
def addWrap : Sided → Sided
  | (stages, sides) =>
    let isNeeded := (sides.output.filterMap (Stage.find? stages)).any (·.kind.isFunction)
    if isNeeded && (Stage.find? stages wrapName).isNone then
      (stages ++ [wrapStage sides.output], { sides with output := wrapName :: sides.output })
    else (stages, sides)

/-- The locations of the files that sinks read, each with the first sink that declares it. -/
def sinkLocations (stages : List Stage) (sinks : List String) : List (String × String) :=
  (sinks.filterMap (Stage.find? stages)).foldl
    (fun known stage =>
      if stage.kind = .adapter then known
      else match stage.location? with
        | none => known
        | some location =>
          if known.any (·.1 = location) then known else known ++ [(location, stage.name)])
    []

/-- Add an extraction stage at the end of the sinks, unless a stage has its name. -/
def addExtraction (sided : Sided) (file : String × String) : Sided :=
  let (stages, sides) := sided
  let adapter := extractStage file.1 file.2
  if (Stage.find? stages adapter.name).isNone then
    (stages ++ [adapter], sides.add .input adapter.name)
  else (stages, sides)

/-- Add extraction stages for all files that sinks read. -/
def addExtractions : Sided → Sided
  | (stages, sides) => (sinkLocations stages sides.input).foldl addExtraction (stages, sides)

/-- The label of a stage that extracts a file. -/
def extractionLabel? (stage : Stage) : Option String :=
  if stage.functionType? = some extractFunction then
    ((stage.config.lookup "configuration").bind (Value.field? "label")).bind Value.text?
  else none

/-- Add a collection stage at the end of the sinks, if some sink extracts a file. -/
def addCollection : Sided → Sided
  | (stages, sides) =>
    let labels := (sides.input.filterMap (Stage.find? stages)).filterMap extractionLabel?
    if !labels.isEmpty && (Stage.find? stages collectName).isNone then
      (stages ++ [collectStage labels], sides.add .input collectName)
    else (stages, sides)

/-- Stages and names with all adapters that they need. -/
def decorate (stages : List Stage) (sides : PipeSides) : Except Failure Sided := do
  checkUniqueNames stages
  return addCollection (addExtractions (addWrap (stages, sides)))

end WorkflowChain
