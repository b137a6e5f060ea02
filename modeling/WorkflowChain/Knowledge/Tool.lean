import WorkflowChain.Pipeline.Template
import WorkflowChain.Workflow.Graph

/-! # Tools

The descriptor of a tool says how it reads and writes artifacts, which files it needs besides, and
how it is run. The descriptor of an artifact that tools produce only gives its native type. Whatever
is absent from a descriptor is empty, and is left out when it is written.
-/

namespace WorkflowChain

/-- A file that a tool needs besides its inputs. -/
structure StaticFile where
  targetFile : String
  sourceUri : String
  deriving DecidableEq, Repr

namespace StaticFile

/-- The fields of a static file. -/
inductive Field where
  | targetFile
  | sourceUri
  deriving DecidableEq, Repr

/-- How a static file is read. -/
def reader : RecordReader Field (Option String × Option String) StaticFile where
  name := "StaticFile"
  fields := [(.targetFile, "target_file"), (.sourceUri, "source_uri")]
  ofKey
    | "target_file" | "targetFile" => some .targetFile
    | "source_uri" | "sourceUri" => some .sourceUri
    | _ => none
  start := (none, none)
  has
    | .targetFile, draft => draft.1.isSome
    | .sourceUri, draft => draft.2.isSome
  take
    | .targetFile, datum, draft => do return (some (← datum.decodeText), draft.2)
    | .sourceUri, datum, draft => do return (draft.1, some (← datum.decodeText))
  finish absent draft := do
    return { targetFile := ← required (absent .targetFile) draft.1,
             sourceUri := ← required (absent .sourceUri) draft.2 }

/-- A static file as a value. -/
def encode (file : StaticFile) : Value :=
  .map [("target_file", .text file.targetFile), ("source_uri", .text file.sourceUri)]

end StaticFile

/-- Templates for the artifacts of one side of a tool. -/
abbrev Bindings := Table (List Template)

/-- What is known about a tool, or about an artifact that tools produce. -/
structure Descriptor where
  input : Bindings := []
  output : Bindings := []
  files : List StaticFile := []
  command : Option String := none
  executor : Option String := none
  installCommand : Option String := none
  datanodeType : Option String := none
  deriving Repr, Inhabited

namespace Descriptor

/-- The templates of one side. -/
def bindings (descriptor : Descriptor) : Direction → Bindings
  | .input => descriptor.input
  | .output => descriptor.output

/-- The templates for an artifact, under its identifier or else under its compact key. -/
def templatesFor? (descriptor : Descriptor) (direction : Direction) (artifact : String) :
    Option (List Template) :=
  let bindings := descriptor.bindings direction
  match bindings.lookup artifact with
  | some templates => some templates
  | none => bindings.lookup (Iri.compact artifact)

/-- The name of the file that the tool expects for an artifact: the location that the last of its
input templates declares. -/
def inputFileName? (descriptor : Descriptor) (artifact : String) : Option String := do
  (← (← descriptor.templatesFor? .input artifact).getLast?).location?

/-- The names of the files that the tool writes, in the order of its outputs. -/
def outputFileNames (descriptor : Descriptor) (tool : String) : Except Failure (List String) :=
  descriptor.output.mapM fun (artifact, templates) =>
    match templates.head?.bind Template.downloadUrl? with
    | some url => .ok url
    | none => .error (.notFound artifact ("download location in output of tool '" ++ tool ++ "'"))

/-! ## Reading and writing -/

/-- The fields of a descriptor. -/
inductive Field where
  | input
  | output
  | files
  | command
  | executor
  | installCommand
  | datanodeType
  deriving DecidableEq, Repr

/-- The fields of a descriptor that were read so far. -/
structure Draft where
  input : Option Bindings := none
  output : Option Bindings := none
  files : Option (List StaticFile) := none
  command : Option (Option String) := none
  executor : Option (Option String) := none
  installCommand : Option (Option String) := none
  datanodeType : Option (Option String) := none

/-- The templates that a map of lists stands for. -/
def decodeBindings (datum : Datum) : Decoded Bindings :=
  datum.decodeTable (Datum.decodeList Template.decode)

/-- How a descriptor is read. -/
def reader : RecordReader Field Draft Descriptor where
  name := "Descriptor"
  fields := [(.input, "input"), (.output, "output"), (.files, "files"), (.command, "command"),
    (.executor, "executor"), (.installCommand, "installCommand"),
    (.datanodeType, "datanodeType")]
  ofKey
    | "input" => some .input
    | "output" => some .output
    | "files" => some .files
    | "command" => some .command
    | "executor" | "aiida_plugin" => some .executor
    | "installCommand" | "install_command" => some .installCommand
    | "datanodeType" | "aiidaDatanodeType" | "datanode_type" => some .datanodeType
    | _ => none
  start := {}
  has
    | .input, draft => draft.input.isSome
    | .output, draft => draft.output.isSome
    | .files, draft => draft.files.isSome
    | .command, draft => draft.command.isSome
    | .executor, draft => draft.executor.isSome
    | .installCommand, draft => draft.installCommand.isSome
    | .datanodeType, draft => draft.datanodeType.isSome
  take
    | .input, datum, draft => do return { draft with input := some (← decodeBindings datum) }
    | .output, datum, draft => do return { draft with output := some (← decodeBindings datum) }
    | .files, datum, draft => do
      return { draft with files := some (← datum.decodeList StaticFile.reader.read) }
    | .command, datum, draft => do
      return { draft with command := some (← datum.decodeOption Datum.decodeText) }
    | .executor, datum, draft => do
      return { draft with executor := some (← datum.decodeOption Datum.decodeText) }
    | .installCommand, datum, draft => do
      return { draft with installCommand := some (← datum.decodeOption Datum.decodeText) }
    | .datanodeType, datum, draft => do
      return { draft with datanodeType := some (← datum.decodeOption Datum.decodeText) }
  finish _ draft := .ok
    { input := draft.input.getD [], output := draft.output.getD [],
      files := draft.files.getD [], command := draft.command.getD none,
      executor := draft.executor.getD none,
      installCommand := draft.installCommand.getD none,
      datanodeType := draft.datanodeType.getD none }
  look
    | .input | .output => .values (.items Template.decoder.interest)
    | .files => .items StaticFile.reader.interest
    | _ => .itself

/-- The descriptor that a datum stands for. -/
def decode (datum : Datum) : Decoded Descriptor := reader.read datum

/-- How a descriptor is decoded. -/
def decoder : Decoder Descriptor := reader.decoder

/-- The entry for the templates of one side, unless there are none. -/
def encodeBindings (key : String) (bindings : Bindings) : List (String × Value) :=
  if bindings.isEmpty then []
  else [(key, .map (bindings.map fun (artifact, templates) =>
    (artifact, .list (templates.map Template.encode))))]

/-- The entry for an optional text, if it is there. -/
def encodeText (key : String) (text : Option String) : List (String × Value) :=
  (text.map fun text => (key, Value.text text)).toList

/-- A descriptor as a value. -/
def encode (descriptor : Descriptor) : Value :=
  .map (encodeBindings "input" descriptor.input
    ++ encodeBindings "output" descriptor.output
    ++ (if descriptor.files.isEmpty then []
        else [("files", .list (descriptor.files.map StaticFile.encode))])
    ++ encodeText "command" descriptor.command
    ++ encodeText "executor" descriptor.executor
    ++ encodeText "installCommand" descriptor.installCommand
    ++ encodeText "datanodeType" descriptor.datanodeType)

end Descriptor

end WorkflowChain
