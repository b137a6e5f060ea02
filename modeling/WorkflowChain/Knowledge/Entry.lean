import WorkflowChain.Knowledge.Tool

/-! # Entries of the knowledge store

An entry is either the list of templates that load a dataset, or the descriptor of a tool. Which of
the two a datum stands for is found by trying: first the list, then the descriptor.
-/

namespace WorkflowChain

/-- An entry of the knowledge store. -/
inductive Entry where
  | dataset (templates : List Template)
  | tool (descriptor : Descriptor)
  deriving Repr

namespace Entry

/-- The descriptor of an entry that is a tool. -/
def descriptor (identifier : String) : Entry → Except Failure Descriptor
  | .tool descriptor => .ok descriptor
  | .dataset _ =>
    .error (.malformed identifier "expected a descriptor mapping, found a strategy list")

/-- The templates of an entry that is a dataset. -/
def templates (identifier : String) : Entry → Except Failure (List Template)
  | .dataset templates => .ok templates
  | .tool _ =>
    .error (.malformed identifier "expected a strategy list, found a descriptor mapping")

/-- The list of templates that a datum stands for. -/
def decodeTemplates (datum : Datum) : Decoded (List Template) := datum.decodeList Template.decode

/-- How a list of templates is decoded. -/
def templatesDecoder : Decoder (List Template) :=
  ⟨decodeTemplates, .items Template.decoder.interest⟩

/-- The entry that a datum stands for. -/
def decode (datum : Datum) : Decoded Entry :=
  match datum.resolve with
  | none => .error .unreadable
  | some datum =>
    match decodeTemplates datum with
    | .ok templates => .ok (.dataset templates)
    | .error _ =>
      match Descriptor.decode datum with
      | .ok descriptor => .ok (.tool descriptor)
      | .error _ => .error (.noVariant "StoreEntry")

/-- How an entry is decoded. -/
def decoder : Decoder Entry := ⟨decode, .all⟩

/-- A list of templates as a value. -/
def encodeTemplates (templates : List Template) : Value := .list (templates.map Template.encode)

/-- An entry as a value. -/
def encode : Entry → Value
  | .dataset templates => encodeTemplates templates
  | .tool descriptor => descriptor.encode

end Entry

end WorkflowChain
