import WorkflowChain.Data.Decode

/-! # Stage templates

Resources document pieces of pipelines as lists of templates. A template names a strategy and
configures it; in a document it is a map of one key, `{strategy: configuration}`. A template that
was read has a known strategy.
-/

namespace WorkflowChain

/-- The kinds of pipeline stages. -/
inductive StageKind where
  /-- Loads or describes data. -/
  | resource
  /-- Transforms data. -/
  | conversion
  /-- Bridges two representations of data. -/
  | adapter
  /-- Selects data. -/
  | filter
  deriving DecidableEq, Repr

namespace StageKind

/-- The name of a kind. -/
def name : StageKind → String
  | .resource => "resource"
  | .conversion => "conversionFunction"
  | .adapter => "adapterFunction"
  | .filter => "filterSetting"

/-- All kinds. -/
def all : List StageKind := [.resource, .conversion, .adapter, .filter]

/-- The kind of a name. -/
def ofName (name : String) : Decoded StageKind :=
  match all.find? (·.name = name) with
  | some kind => .ok kind
  | none => .error (.unknownVariant name (all.map StageKind.name))

/-- The kind of stage that a strategy stands for. -/
def ofStrategy? : String → Option StageKind
  | "dataresource" | "resource" | "parser" => some .resource
  | "function" | "transformation" | "mapping" => some .conversion
  | "filter" => some .filter
  | _ => none

/-- Whether stages of this kind run a function. -/
def isFunction : StageKind → Bool
  | .conversion | .adapter => true
  | .resource | .filter => false

end StageKind

/-- A configuration: values by name, in the order of the names. -/
abbrev Configuration := Table Value

namespace Configuration

/-- The text that a configuration gives for a name, either itself or, if it does not have the name,
under `configuration`. -/
def text? (config : Configuration) (name : String) : Option String :=
  match config.lookup name with
  | some value => value.text?
  | none => ((config.lookup "configuration").bind (Value.field? name)).bind Value.text?

end Configuration

/-- A strategy with its configuration. -/
structure Template where
  strategy : String
  config : Configuration
  deriving Repr

namespace Template

/-- The kind of stage that the template becomes, if its strategy is known. -/
def kind? (template : Template) : Option StageKind := StageKind.ofStrategy? template.strategy

/-- The location of a file that the template declares. -/
def location? (template : Template) : Option String :=
  Configuration.text? template.config "location"

/-- The place from which the template downloads data. -/
def downloadUrl? (template : Template) : Option String :=
  Configuration.text? template.config "downloadUrl"

/-- A template as a map of one key. -/
def encode (template : Template) : Value := .map [(template.strategy, .map template.config)]

/-- The template of a map of one key; null stands for an empty configuration. -/
def ofEntries (entries : Table Value) : Decoded Template :=
  match entries with
  | [(strategy, configuration)] =>
    if (StageKind.ofStrategy? strategy).isNone then .error (.unknownStrategy strategy)
    else match configuration with
      | .map config => .ok ⟨strategy, config⟩
      | .null => .ok ⟨strategy, []⟩
      | other => .error (.notAMapping strategy other)
  | entries => .error (.strategyCount entries.length)

/-- The template that a datum stands for. -/
def decode (datum : Datum) : Decoded Template := do
  ofEntries (← datum.decodeConfiguration)

/-- How a template is decoded. -/
def decoder : Decoder Template := ⟨decode, .values .all⟩

end Template

end WorkflowChain
