import WorkflowChain.Knowledge.Store
import WorkflowChain.Proofs.Alike

/-! # Stores that agree

Two stores agree on known identifiers if they answer alike whenever they are asked for these. What
they have to agree on is what is read: the templates of an artifact, but not the key under which
these stand. Only the failure to find an output file tells such a key, so that the reasons for
failures are compared by a relation.
-/

namespace WorkflowChain

/-- What a descriptor says about known artifacts. -/
structure Descriptor.AgreesOn (reasons : Failure → Failure → Prop) (known : String → Prop)
    (descriptor other : Descriptor) : Prop where
  templates : ∀ direction artifact, known artifact →
    descriptor.templatesFor? direction artifact = other.templatesFor? direction artifact
  outputs : ∀ tool,
    RunsAlike reasons Eq (descriptor.outputFileNames tool) (other.outputFileNames tool)
  files : descriptor.files = other.files
  command : descriptor.command = other.command
  executor : descriptor.executor = other.executor
  datanodeType : descriptor.datanodeType = other.datanodeType

/-- Entries are of one kind, with the same templates or with related descriptors. -/
inductive Entry.Related (descriptors : Descriptor → Descriptor → Prop) : Entry → Entry → Prop where
  | dataset (templates : List Template) :
      Related descriptors (.dataset templates) (.dataset templates)
  | tool {descriptor other : Descriptor} (related : descriptors descriptor other) :
      Related descriptors (.tool descriptor) (.tool other)

/-- Related entries stay related if less is asked of their descriptors. -/
theorem Entry.Related.imp {first second : Descriptor → Descriptor → Prop} {entry other : Entry}
    (related : Entry.Related first entry other)
    (weaker : ∀ descriptor partner, first descriptor partner → second descriptor partner) :
    Entry.Related second entry other := by
  cases related with
  | dataset templates => exact .dataset templates
  | tool related => exact .tool (weaker _ _ related)

/-- Two stores answer alike for known identifiers. -/
def Store.AgreesOn (reasons : Failure → Failure → Prop) (known : String → Prop)
    (store other : Store) : Prop :=
  ∀ identifier, known identifier → ∀ context,
    RunsAlike reasons (Entry.Related (Descriptor.AgreesOn reasons known))
      (store.resolve identifier context) (other.resolve identifier context)

/-! ## Answers of stores that agree -/

section Agreement

variable {reasons : Failure → Failure → Prop} {known : String → Prop} {store other : Store}
  (reflexive : ∀ failure, reasons failure failure) (agrees : store.AgreesOn reasons known other)

include reflexive

/-- Related entries have descriptors that agree, or are refused for reasons that match. -/
theorem Entry.descriptor_alike {entry partner : Entry} (identifier : String)
    (related : Entry.Related (Descriptor.AgreesOn reasons known) entry partner) :
    RunsAlike reasons (Descriptor.AgreesOn reasons known) (entry.descriptor identifier)
      (partner.descriptor identifier) := by
  cases related with
  | dataset => exact .error (reflexive _)
  | tool related => exact .ok related

include agrees

namespace Store

/-- A tool that is known to both stores has descriptors there that agree. -/
theorem descriptor_alike {tool : String} (named : known tool) :
    RunsAlike reasons (Descriptor.AgreesOn reasons known) (store.descriptor tool)
      (other.descriptor tool) :=
  (agrees tool named _).bind fun _ _ related => Entry.descriptor_alike reflexive tool related

/-- What is looked up for an artifact of a known tool is the same in both stores. -/
theorem toolTemplates_alike {tool artifact : String} (direction : Direction) (named : known tool)
    (listed : known artifact) :
    RunsAlike reasons Eq (store.toolTemplates tool direction artifact)
      (other.toolTemplates tool direction artifact) := by
  refine (descriptor_alike reflexive agrees named).bind fun descriptor partner related => ?_
  rw [related.templates direction artifact listed]
  exact .refl reflexive _

/-- The templates of a known dataset are the same in both stores. -/
theorem datasetTemplates_alike {dataset : String} (named : known dataset) :
    RunsAlike reasons Eq (store.datasetTemplates dataset) (other.datasetTemplates dataset) := by
  refine (agrees dataset named _).bind fun entry partner related => ?_
  cases related with
  | dataset templates => exact .ok rfl
  | tool => exact .error (reflexive _)

/-- The native type of a known artifact is the same in both stores. -/
theorem datanodeType_alike {artifact : String} (named : known artifact) :
    RunsAlike reasons Eq (store.datanodeType artifact) (other.datanodeType artifact) := by
  refine (agrees artifact named _).bind fun entry partner related => ?_
  refine (Entry.descriptor_alike reflexive artifact related).bind fun descriptor partner same => ?_
  rw [same.datanodeType]
  exact .refl reflexive _

end Store

end Agreement

end WorkflowChain
