import WorkflowChain.Pipeline.Template

/-! # Pipeline stages

A stage is a template under a generated name. In a document it is a map whose first entry gives the
strategy and the name and whose other entries are the configuration; an entry of the configuration
under the name of the strategy is not written.
-/

namespace WorkflowChain

/-- A named stage of a pipeline. -/
structure Stage where
  kind : StageKind
  strategy : String
  name : String
  config : Configuration
  deriving Repr

namespace Stage

/-- The stage of a template under a name; one with an unknown strategy is a resource. -/
def ofTemplate (template : Template) (name : String) : Stage :=
  ⟨template.kind?.getD .resource, template.strategy, name, template.config⟩

/-- A stage that runs a function. -/
def function (kind : StageKind) (name functionType : String) (configuration : Configuration) :
    Stage :=
  ⟨kind, "function", name,
    [("configuration", .map configuration), ("functionType", .text functionType)]⟩

/-- The type of the function that the stage runs, if it gives one. -/
def functionType? (stage : Stage) : Option String :=
  (stage.config.lookup "functionType").bind Value.text?

/-- The location of a file that the stage declares. -/
def location? (stage : Stage) : Option String := Configuration.text? stage.config "location"

/-- The stage of a name in a list. -/
def find? (stages : List Stage) (name : String) : Option Stage := stages.find? (·.name = name)

/-- A stage as it stands in a document. -/
def encode (stage : Stage) : Value :=
  .map ((stage.strategy, .text stage.name)
    :: stage.config.filter fun (key, _) => key ≠ stage.strategy)

end Stage

end WorkflowChain
