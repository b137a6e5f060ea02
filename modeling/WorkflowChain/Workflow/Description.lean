import WorkflowChain.Data.Decode

/-! # Workflow descriptions

A workflow is described as a tree of artifacts and tools. Each description is related to the one
above it: either it produces it, or it is consumed by it. A description without a list of children
is a dataset; an empty list of children is something else.

A description is read from a map (or from a positional list) and written back as a map; what is
absent is left out, except for the depth.
-/

namespace WorkflowChain

/-- How a description is related to the one above it. Everything that is not a production is a
consumption, whose predicate is kept. -/
inductive Relation where
  | produces
  | consumes (predicate : String)
  deriving DecidableEq, Repr

namespace Relation

/-- The predicate of a consumption that a builder adds. -/
def consumesAsIndividual : Relation := .consumes "consumes-as-individual"

/-- Whether the relation is a production. -/
def isProduction : Relation → Bool
  | .produces => true
  | .consumes _ => false

/-- The relation that a predicate stands for. -/
def ofText (predicate : String) : Relation :=
  if predicate = "produces" ∨ predicate = "hasOutput" then .produces else .consumes predicate

/-- The predicate of a relation. -/
def toText : Relation → String
  | .produces => "produces"
  | .consumes predicate => predicate

end Relation

/-- A workflow description. -/
structure Description where
  identifier : Option String
  depth : Nat
  relation : Option Relation
  /-- The descriptions below this one; a dataset has no such list. -/
  children : Option (List Description)
  deriving Repr

namespace Description

/-- A dataset. -/
def leaf (identifier : String) : Description := ⟨some identifier, 0, none, none⟩

/-- A description with a list of children that is still empty. -/
def branch (identifier : String) : Description := ⟨some identifier, 0, none, some []⟩

/-- The description with another depth. -/
def withDepth (description : Description) (depth : Nat) : Description :=
  { description with depth }

/-- The description with another relation to the one above it. -/
def withRelation (description : Description) (relation : Relation) : Description :=
  { description with relation := some relation }

/-- The description with one more child, which comes last. -/
def withChild (description child : Description) : Description :=
  { description with children := some (description.children.getD [] ++ [child]) }

/-- The description with a child that produces it. -/
def producedBy (description child : Description) : Description :=
  description.withChild (child.withRelation .produces)

/-- The description with a child that it consumes. -/
def consuming (description child : Description) : Description :=
  description.withChild (child.withRelation .consumesAsIndividual)

/-- Whether the description has no list of children. -/
def isLeaf (description : Description) : Bool := description.children.isNone

/-- Whether the description produces the one above it. -/
def isProduction (description : Description) : Bool :=
  description.relation.any Relation.isProduction

/-! ## Reading -/

/-- The fields of a description. -/
inductive Field where
  | identifier
  | depth
  | relation
  | children
  deriving DecidableEq, Repr

/-- The fields in order, with their names in messages. -/
def fields : List (Field × String) :=
  [(.identifier, "identifier"), (.depth, "depth"), (.relation, "relation"),
    (.children, "children")]

/-- The field of a key. -/
def Field.ofKey : String → Option Field
  | "identifier" | "iri" => some .identifier
  | "depth" => some .depth
  | "relation" | "predicate" => some .relation
  | "children" => some .children
  | _ => none

/-- The fields of a description that were read so far. -/
structure Draft where
  identifier : Option (Option String) := none
  depth : Option Nat := none
  relation : Option (Option Relation) := none
  children : Option (Option (List Description)) := none

namespace Draft

/-- Whether a field was read. -/
def has (field : Field) (draft : Draft) : Bool :=
  match field with
  | .identifier => draft.identifier.isSome
  | .depth => draft.depth.isSome
  | .relation => draft.relation.isSome
  | .children => draft.children.isSome

/-- The description of a draft; every field has a default. -/
def finish (draft : Draft) : Description :=
  ⟨draft.identifier.getD none, draft.depth.getD 0, draft.relation.getD none,
    draft.children.getD none⟩

/-- Take a field other than the children into a draft. -/
def take (field : Field) (datum : Datum) (draft : Draft) : Decoded Draft := do
  match field with
  | .identifier => return { draft with identifier := some (← datum.decodeOption Datum.decodeText) }
  | .depth => return { draft with depth := some (← datum.decodeCount) }
  | .relation =>
    let relation ← datum.decodeOption fun datum => Relation.ofText <$> datum.decodeText
    return { draft with relation := some relation }
  | .children => return draft

end Draft

mutual

/-- The description that a datum stands for. -/
def decode : Datum → Decoded Description
  | .map entries => Draft.finish <$> takeEntries entries {}
  | .list true items => do
    let draft ← takeItems (fields.map Prod.fst) items {}
    if items.length > fields.length then .error (.tooLong items.length)
    else return draft.finish
  | .tagged collection => decode collection
  | datum =>
    if datum.isBlank then .ok (Draft.finish {})
    else .error (.wrongType datum.found (.record "WorkflowDescription"))

/-- The children that a datum stands for. -/
def decodeChildren : Datum → Decoded (Option (List Description))
  | .list _ items => some <$> decodeAll items
  | .tagged collection => decodeChildren collection
  | datum => do
    if ← datum.decodeAbsent then return none
    else if datum.isBlank then return some []
    else .error (.wrongType datum.found .sequence)

/-- All descriptions of a list. -/
def decodeAll : List Datum → Decoded (List Description)
  | [] => .ok []
  | item :: rest => do
    let description ← decode item
    return description :: (← decodeAll rest)

/-- Take the entries of a map into a draft. -/
def takeEntries : List (Datum × Datum) → Draft → Decoded Draft
  | [], draft => .ok draft
  | (key, value) :: rest, draft => do
    match ← fieldOf fields Field.ofKey key with
    | none => takeEntries rest draft
    | some field =>
      if draft.has field then .error (.duplicateField ((fields.lookup field).getD ""))
      else if field = .children then
        let children ← decodeChildren value
        takeEntries rest { draft with children := some children }
      else takeEntries rest (← draft.take field value)

/-- Take the items of a positional list into a draft. -/
def takeItems : List Field → List Datum → Draft → Decoded Draft
  | field :: fields, item :: items, draft => do
    if field = .children then
      let children ← decodeChildren item
      takeItems fields items { draft with children := some children }
    else takeItems fields items (← draft.take field item)
  | _, _, draft => .ok draft

end

/-- What is looked at for a description. -/
def interest : Interest :=
  .fields fun key =>
    match Field.ofKey key with
    | none => .nothing
    | some .children => .items .again
    | some _ => .itself

/-- How a description is decoded. -/
def decoder : Decoder Description := ⟨decode, interest⟩

/-! ## Writing -/

mutual

/-- A description as a value. -/
def encode : Description → Value
  | ⟨identifier, depth, relation, children⟩ =>
    .map ((identifier.map fun iri => ("identifier", Value.text iri)).toList
      ++ [("depth", .int depth)]
      ++ (relation.map fun relation => ("relation", Value.text relation.toText)).toList
      ++ encodeChildren children)

/-- The entry for the children, if there is a list of them. -/
def encodeChildren : Option (List Description) → List (String × Value)
  | none => []
  | some children => [("children", .list (encodeAll children))]

/-- All descriptions of a list as values. -/
def encodeAll : List Description → List Value
  | [] => []
  | child :: rest => encode child :: encodeAll rest

end

end Description

end WorkflowChain
