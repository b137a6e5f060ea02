import WorkflowChain.Knowledge.Entry

/-! # The knowledge store

The store holds entries by identifier, and for each identifier the types that were recorded for it.
It is seen through `lookup?` and `typesOf`. A resolution looks for an identifier first as it is and
then in its compact form.

The store is in memory. To look something up in it cannot fail, so a resolution either has an entry
or finds none, and no `Failure` stands for a store that cannot be asked. A compact form is looked up
among the same entries; stores with another way to find compact forms are not described here.
-/

namespace WorkflowChain

/-- A knowledge store. -/
structure Store where
  entries : Table Entry := []
  types : Table (List String) := []

namespace Store

/-- The store without entries and types. -/
def empty : Store := {}

/-- The entry under exactly this identifier. -/
def lookup? (store : Store) (identifier : String) : Option Entry := store.entries.lookup identifier

/-- The entry under the compact form of an identifier. -/
def lookupCompact? (store : Store) (identifier : String) : Option Entry :=
  store.lookup? (Iri.compact identifier)

/-- The types recorded for an identifier, in the order in which they were recorded. -/
def typesOf (store : Store) (identifier : String) : List String :=
  (store.types.lookup identifier).getD []

/-- The store with an entry under an identifier, in place of an earlier one. -/
def insert (store : Store) (identifier : String) (entry : Entry) : Store :=
  { store with entries := store.entries.put identifier entry }

/-- The store in which a type is recorded for an identifier; each type is recorded once. -/
def addType (store : Store) (identifier type : String) : Store :=
  let known := store.typesOf identifier
  { store with
    types := store.types.put identifier (if type ∈ known then known else known ++ [type]) }

/-- How many entries there are. -/
def size (store : Store) : Nat := store.entries.length

/-- The identifiers of all entries, in ascending order. -/
def identifiers (store : Store) : List String := store.entries.keys.mergeSort (· ≤ ·)

/-! ## Changes -/

/-- A change of a store that may fail. What was written before a failure stays written. -/
abbrev Change (ε α : Type) : Type := ExceptT ε (StateM Store) α

/-- The outcome of a change, and the store that it leaves behind. -/
def Change.applyTo {ε α : Type} (change : Change ε α) (store : Store) : Except ε α × Store :=
  (change.run.run store).run

/-! ## Resolution -/

/-- The entry for an identifier, in its full or its compact form. Neither lookup fails, so the only
failure is that there is no entry. -/
def resolve (store : Store) (identifier context : String) : Except Failure Entry :=
  match store.lookup? identifier with
  | some entry => .ok entry
  | none =>
    match store.lookupCompact? identifier with
    | some entry => .ok entry
    | none => .error (.notFound identifier context)

/-- The descriptor of a tool. -/
def descriptor (store : Store) (tool : String) : Except Failure Descriptor := do
  (← store.resolve tool "tool descriptor").descriptor tool

/-- The templates with which a tool reads or writes an artifact. -/
def toolTemplates (store : Store) (tool : String) (direction : Direction) (artifact : String) :
    Except Failure (List Template) := do
  let descriptor ← store.descriptor tool
  match descriptor.templatesFor? direction artifact with
  | some templates => return templates
  | none => throw (.notFound artifact (direction.name ++ " templates of tool '" ++ tool ++ "'"))

/-- The templates that load a dataset. -/
def datasetTemplates (store : Store) (dataset : String) : Except Failure (List Template) := do
  (← store.resolve dataset "dataset").templates dataset

/-- The native type of an artifact that tools produce. -/
def datanodeType (store : Store) (artifact : String) : Except Failure String := do
  let descriptor ← (← store.resolve artifact "datanode type").descriptor artifact
  match descriptor.datanodeType with
  | some type => return type
  | none => throw (.notFound artifact "datanode type")

end Store

end WorkflowChain
