import WorkflowChain.Data.DecodeError
import WorkflowChain.Json.Reader
import WorkflowChain.Yaml.Reader

/-! # Decoding data

Decoders for the parts that records are made of: texts, counts, optional data, lists, maps and
free-form values. A record is decoded from a map, whose entries are taken one after the other, or
from a positional list of its fields. The first fault that is met is reported. Texts are decoded in
one of two formats (`Format.decode?`).
-/

namespace WorkflowChain

variable {α φ δ : Type}

/-- A decoded result, or the reason why there is none. -/
abbrev Decoded (α : Type) := Except DecodeError α

/-- How something is decoded, and what is looked at for that. -/
structure Decoder (α : Type) where
  decode : Datum → Decoded α
  interest : Interest

namespace Datum

/-- What a message says about a datum. -/
def found : Datum → Found
  | .leaf datum => .leaf datum
  | .scalar written => .leaf (.text written.text)
  | .void => .leaf .null
  | .broken => .leaf .null
  | .list _ _ => .sequence
  | .map _ => .map
  | .tagged collection => collection.found

/-- Whether the datum is an empty place in a document, which also stands for an empty collection. -/
def isBlank : Datum → Bool
  | .scalar written => written.isBlank
  | .void => true
  | _ => false

/-- The text that a datum stands for. -/
def decodeText (datum : Datum) : Decoded String :=
  match datum.text? with
  | some value => .ok value
  | none => .error (.wrongType datum.found .text)

/-- The count of at most 64 bits that a datum stands for. -/
def decodeCount (datum : Datum) : Decoded Nat :=
  match datum with
  | .leaf (.int value) =>
    if 0 ≤ value ∧ value < 0x10000000000000000 then .ok value.toNat
    else .error (.wrongValue datum.found .count)
  | .scalar written =>
    match written.count? with
    | some value => .ok value
    | none => .error (.wrongType datum.found .count)
  | _ => .error (.wrongType datum.found .count)

/-- Whether an optional datum is absent. -/
def decodeAbsent : Datum → Decoded Bool
  | .leaf .null => .ok true
  | .void => .ok true
  | .scalar written =>
    match written.saysAbsent? with
    | some absent => .ok absent
    | none => .error .unreadable
  | _ => .ok false

/-- An optional datum. -/
def decodeOption (decode : Datum → Decoded α) (datum : Datum) : Decoded (Option α) := do
  if ← datum.decodeAbsent then return none
  else return some (← decode datum)

/-- The items of a list. -/
def decodeItems (datum : Datum) : Decoded (List Datum) :=
  match datum with
  | .list _ items => .ok items
  | .tagged collection => collection.decodeItems
  | datum => if datum.isBlank then .ok [] else .error (.wrongType datum.found .sequence)

/-- The entries of a map. -/
def decodeEntries (datum : Datum) : Decoded (List (Datum × Datum)) :=
  match datum with
  | .map entries => .ok entries
  | .tagged collection => collection.decodeEntries
  | datum => if datum.isBlank then .ok [] else .error (.wrongType datum.found .map)

/-- A list of decoded items. -/
def decodeList (decode : Datum → Decoded α) (datum : Datum) : Decoded (List α) := do
  (← datum.decodeItems).mapM decode

/-- A table with texts as keys; a repeated key keeps its place and its last value. -/
def decodeTable (decode : Datum → Decoded α) (datum : Datum) : Decoded (Table α) := do
  let entries ← (← datum.decodeEntries).mapM fun (key, value) => do
    let key ← key.decodeText
    return (key, ← decode value)
  return Table.ofEntries entries

/-- A value without a fixed shape. -/
def decodeValue (datum : Datum) : Decoded Value :=
  match datum.toValue? with
  | some value => .ok value
  | none => .error .unreadable

/-- The configuration that a map stands for: its values by key, in key order. -/
def decodeConfiguration (datum : Datum) : Decoded (Table Value) := do
  let table ← datum.decodeTable decodeValue
  return Table.sorted table

end Datum

/-- The field that a key of a map stands for: a text is a name, and a number is a position. Other
keys stand for no field. -/
def fieldOf (fields : List (φ × String)) (ofKey : String → Option φ) (key : Datum) :
    Decoded (Option φ) :=
  match key with
  | .leaf (.int position) =>
    if position < 0 then .error (.wrongType key.found .text)
    else .ok (fields[position.toNat]?.map Prod.fst)
  | key => ofKey <$> key.decodeText

/-- How a record is read. A draft `δ` collects the fields `φ` as they come; in the end it becomes
the record. -/
structure RecordReader (φ δ α : Type) where
  /-- The name of the record in messages. -/
  name : String
  /-- The fields in order, with their names in messages. -/
  fields : List (φ × String)
  /-- The field of a key, other spellings included. -/
  ofKey : String → Option φ
  /-- The draft without any field. -/
  start : δ
  /-- Whether a draft has a field already. -/
  has : φ → δ → Bool
  /-- Take a field into a draft. -/
  take : φ → Datum → δ → Decoded δ
  /-- The record of a draft; `absent` is the fault of a field that is needed and not there. -/
  finish : (absent : φ → DecodeError) → δ → Decoded α
  /-- What is looked at in a field. -/
  look : φ → Interest := fun _ => .itself

namespace RecordReader

variable [BEq φ] (reader : RecordReader φ δ α)

/-- The place of a field in the record. -/
def position (field : φ) : Nat := (reader.fields.map Prod.fst).idxOf field

/-- The name of a field in messages. -/
def nameOf (field : φ) : String := (reader.fields.lookup field).getD ""

/-- Take the entries of a map into a draft. -/
def takeEntries : List (Datum × Datum) → δ → Decoded δ
  | [], draft => .ok draft
  | (key, value) :: rest, draft => do
    match ← fieldOf reader.fields reader.ofKey key with
    | none => takeEntries rest draft
    | some field =>
      if reader.has field draft then .error (.duplicateField (reader.nameOf field))
      else takeEntries rest (← reader.take field value draft)

/-- Take the items of a positional list into a draft. -/
def takeItems : List (φ × String) → List Datum → δ → Decoded δ
  | (field, _) :: fields, item :: items, draft => do
    takeItems fields items (← reader.take field item draft)
  | _, _, draft => .ok draft

/-- The record that a map of its fields stands for. -/
def readEntries (entries : List (Datum × Datum)) : Decoded α := do
  let draft ← reader.takeEntries entries reader.start
  reader.finish (fun field => .missingField (reader.nameOf field)) draft

/-- The record that a positional list of its fields stands for. -/
def readItems (items : List Datum) : Decoded α := do
  let draft ← reader.takeItems reader.fields items reader.start
  let record ← reader.finish
    (fun field => .tooShort (reader.position field) reader.name reader.fields.length) draft
  if items.length > reader.fields.length then .error (.tooLong items.length)
  else return record

/-- The record that a datum stands for. An empty place in a document is a record without fields. -/
def read (datum : Datum) : Decoded α :=
  match datum with
  | .map entries => reader.readEntries entries
  | .list true items => reader.readItems items
  | .tagged collection => read collection
  | datum =>
    if datum.isBlank then reader.readEntries []
    else .error (.wrongType datum.found (.record reader.name))

/-- What is looked at for a record. -/
def interest : Interest :=
  .fields fun key => ((reader.ofKey key).map reader.look).getD .nothing

/-- How a record is decoded. -/
def decoder : Decoder α := ⟨reader.read, reader.interest⟩

end RecordReader

/-- A field of a draft that has to be there. -/
def required (absent : DecodeError) : Option α → Decoded α
  | some value => .ok value
  | none => .error absent

/-! ## Text formats -/

/-- The formats in which data are read. -/
inductive Format where
  | yaml
  | json
  deriving DecidableEq, Repr

namespace Format

/-- The datum that a text stands for in a format, as far as it is of interest. -/
def read? : Format → Interest → String → Option Datum
  | .yaml, interest, text => Yaml.read? interest text
  | .json, _, text => Json.read? text

/-- What a text stands for in a format, if it can be read and fits. -/
def decode? {α : Type} (format : Format) (decoder : Decoder α) (text : String) : Option α :=
  (format.read? decoder.interest text).bind fun datum => (decoder.decode datum).toOption

end Format

end WorkflowChain
