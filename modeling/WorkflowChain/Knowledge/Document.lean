import WorkflowChain.Knowledge.Store

/-! # Resource documents

A resource document lists data resources, tools and native types of artifacts, and gives prefixes
their namespaces. Its keys may use the prefixes; in the store all identifiers are full IRIs.

A store is populated with a whole document or not at all. `Document.resources` decodes everything
first, and `Document.populating` then puts one resource after the other into the store. The types of
a data resource say at least whether it is a source or a sink.
-/

namespace WorkflowChain

/-- A resource document. -/
structure Document where
  /-- The namespaces of prefixes. -/
  namespaces : Table String := []
  /-- Lists of templates by key. -/
  data : Table Value := []
  /-- Descriptors of tools by key. -/
  tools : Table Value := []
  /-- Native types of artifacts by key. -/
  datanodeTypes : Table String := []
  deriving Repr

/-- What is wrong with a resource. -/
inductive ResourceFault where
  | documentedTwice
  | noStrategyList
  | noDescriptor
  /-- A data resource is given a native type. -/
  | typedData
  /-- A template or a descriptor cannot be decoded. -/
  | undecodable (error : DecodeError)
  deriving Repr

/-- The text of a fault. -/
def ResourceFault.message : ResourceFault → String
  | .documentedTwice => "documented more than once"
  | .noStrategyList => "expected a list of strategies"
  | .noDescriptor => "expected a descriptor mapping"
  | .typedData => "a data resource cannot carry a datanode type"
  | .undecodable error => error.message

/-- Why a store cannot be populated. -/
inductive DocumentError where
  /-- The document cannot be had. -/
  | unavailable (reason : String)
  /-- The text is no resource document. -/
  | unreadable (reason : String)
  | invalidResource (identifier : String) (fault : ResourceFault)
  deriving Repr

/-- The text of an error. -/
def DocumentError.message : DocumentError → String
  | .unavailable reason => "Backend error: " ++ reason
  | .unreadable reason => "Invalid document: " ++ reason
  | .invalidResource identifier fault =>
    "Invalid resource '" ++ identifier ++ "': " ++ fault.message

/-! ## Types of data resources -/

/-- The namespace of the types of resources. -/
def typeNamespace : String := "https://w3id.org/emmo/domain/oteio#"

/-- The prefix of that namespace, which every document has. -/
def typePrefix : String := "oteio"

/-- The type of a source of data. -/
def sourceType : String := "oteio:DataSource"

/-- The type of a sink of data. -/
def sinkType : String := "oteio:DataSink"

/-- Whether a type says that a resource is a source or a sink. -/
def isSourceOrSink (type : String) : Bool :=
  type ∈ [sourceType, sinkType, typeNamespace ++ "DataSource", typeNamespace ++ "DataSink"]

/-- The types that a strategy declares: a text, or the texts in a list. -/
def declaredTypes (configuration : Value) : List String :=
  match configuration.field? "type" with
  | some (.text type) => [type]
  | some (.list types) => types.filterMap Value.text?
  | _ => []

/-- The types of a data resource. One that loads data is a source, unless its last loading strategy
declares that it is a source or a sink; one that does not is a sink. -/
def resourceTypes (resource : Value) : Except ResourceFault (List String) :=
  match resource.items? with
  | none => .error .noStrategyList
  | some items =>
    match (items.filterMap (Value.field? "dataresource")).getLast? with
    | none => .ok [sinkType]
    | some loading =>
      let types := declaredTypes loading
      .ok (if types.any isSourceOrSink then types else types ++ [sourceType])

namespace Document

/-! ## Reading -/

/-- The sections of a document. -/
inductive Section where
  | namespaces
  | data
  | tools
  | datanodeTypes
  deriving DecidableEq, Repr

/-- The sections of a document that were read so far. -/
structure Draft where
  namespaces : Option (Table String) := none
  data : Option (Table Value) := none
  tools : Option (Table Value) := none
  datanodeTypes : Option (Table String) := none

/-- How a document is read. -/
def reader : RecordReader Section Draft Document where
  name := "ResourceDocument"
  fields := [(.namespaces, "prefixes"), (.data, "data_resources"),
    (.tools, "simulation_resources"), (.datanodeTypes, "datanode_types")]
  ofKey
    | "prefixes" => some .namespaces
    | "data_resources" => some .data
    | "simulation_resources" => some .tools
    | "datanode_types" => some .datanodeTypes
    | _ => none
  start := {}
  has
    | .namespaces, draft => draft.namespaces.isSome
    | .data, draft => draft.data.isSome
    | .tools, draft => draft.tools.isSome
    | .datanodeTypes, draft => draft.datanodeTypes.isSome
  take
    | .namespaces, datum, draft => do
      return { draft with namespaces := some (← datum.decodeTable Datum.decodeText) }
    | .data, datum, draft => do
      return { draft with data := some (← datum.decodeTable Datum.decodeValue) }
    | .tools, datum, draft => do
      return { draft with tools := some (← datum.decodeTable Datum.decodeValue) }
    | .datanodeTypes, datum, draft => do
      return { draft with datanodeTypes := some (← datum.decodeTable Datum.decodeText) }
  finish _ draft := .ok
    { namespaces := draft.namespaces.getD [], data := draft.data.getD [],
      tools := draft.tools.getD [], datanodeTypes := draft.datanodeTypes.getD [] }
  look
    | .namespaces | .datanodeTypes => .values .itself
    | .data | .tools => .values .all

/-- The document that a datum stands for. -/
def decode (datum : Datum) : Decoded Document := reader.read datum

/-- How a document is decoded. -/
def decoder : Decoder Document := reader.decoder

/-- The document that a text stands for. -/
def ofText (text : String) : Except DocumentError Document :=
  match Format.yaml.decode? decoder text with
  | some document => .ok document
  | none => .error (.unreadable "not a resource document")

/-! ## Populating a store -/

/-- The full IRI of a key. The declared namespaces come before the one that every document has. -/
def expand (document : Document) (key : String) : String :=
  Iri.expand (document.namespaces ++ [(typePrefix, typeNamespace)]) key

/-- What a document says about an identifier. -/
structure Resource where
  identifier : String
  entry : Entry
  /-- The types, which may use prefixes. -/
  types : List String := []
  deriving Repr

/-- The full IRI of a key, unless there is a resource with it already. -/
def newIdentifier (document : Document) (known : List Resource) (key : String) :
    Except DocumentError String :=
  let identifier := document.expand key
  if known.any (·.identifier = identifier) then
    .error (.invalidResource identifier .documentedTwice)
  else .ok identifier

/-- Give an identifier to the faults of a decoder. -/
def decodedFor {α : Type} (identifier : String) : Decoded α → Except DocumentError α
  | .ok result => .ok result
  | .error error => .error (.invalidResource identifier (.undecodable error))

/-- Add a data resource to those that are known. -/
def addData (document : Document) (known : List Resource) (entry : String × Value) :
    Except DocumentError (List Resource) := do
  let (key, resource) := entry
  let identifier ← document.newIdentifier known key
  let types ← (resourceTypes resource).mapError (.invalidResource identifier)
  let templates ← decodedFor identifier (Entry.decodeTemplates (Datum.ofValue resource))
  return known ++ [{ identifier, entry := .dataset templates, types }]

/-- The bindings of one side of a tool with full IRIs as keys. -/
def expandBindings (document : Document) (bindings : Bindings) : Bindings :=
  Table.ofEntries (bindings.map fun (key, templates) => (document.expand key, templates))

/-- The descriptor of a tool with full IRIs as keys. -/
def expandDescriptor (document : Document) (descriptor : Descriptor) : Descriptor :=
  { descriptor with
    input := document.expandBindings descriptor.input
    output := document.expandBindings descriptor.output }

/-- Add a tool to the resources that are known. -/
def addTool (document : Document) (known : List Resource) (entry : String × Value) :
    Except DocumentError (List Resource) := do
  let (key, resource) := entry
  let identifier ← document.newIdentifier known key
  if resource.entries?.isNone then throw (.invalidResource identifier .noDescriptor)
  let descriptor ← decodedFor identifier (Descriptor.decode (Datum.ofValue resource))
  return known ++ [{ identifier, entry := .tool (document.expandDescriptor descriptor) }]

/-- Give a native type to the resource with an identifier, which must be a tool; if there is none
yet, one is added that has only the type. -/
def giveType (identifier type : String) : List Resource → Except DocumentError (List Resource)
  | [] => .ok [{ identifier, entry := .tool { datanodeType := some type } }]
  | resource :: rest =>
    if resource.identifier = identifier then
      match resource.entry with
      | .tool descriptor =>
        .ok ({ resource with entry := .tool { descriptor with datanodeType := some type } } :: rest)
      | .dataset _ => .error (.invalidResource identifier .typedData)
    else do return resource :: (← giveType identifier type rest)

/-- Give a native type to what a key stands for. -/
def addDatanodeType (document : Document) (known : List Resource) (entry : String × String) :
    Except DocumentError (List Resource) :=
  giveType (document.expand entry.1) entry.2 known

/-- All resources of a document, decoded. -/
def resources (document : Document) : Except DocumentError (List Resource) := do
  let data ← document.data.foldlM document.addData []
  let all ← document.tools.foldlM document.addTool data
  document.datanodeTypes.foldlM document.addDatanodeType all

/-- Put a resource into the store: its types are recorded in full, and its entry replaces an earlier
one. -/
def putResource (document : Document) (resource : Resource) : Store.Change DocumentError Unit := do
  resource.types.forM fun type =>
    modify (·.addType resource.identifier (document.expand type))
  modify (·.insert resource.identifier resource.entry)

/-- Put all resources of a document into the store, and count them. -/
def populating (document : Document) : Store.Change DocumentError Nat := do
  let resources ← liftExcept document.resources
  resources.forM document.putResource
  return resources.length

/-- The store with all resources of a document, and how many there are. -/
def populate (document : Document) (store : Store) : Except DocumentError (Store × Nat) :=
  let (outcome, store) := document.populating.applyTo store
  outcome.map (store, ·)

/-- A store with nothing but the resources of a document. -/
def toStore (document : Document) : Except DocumentError Store := do
  return (← document.populate Store.empty).1

end Document

end WorkflowChain
