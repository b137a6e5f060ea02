import WorkflowChain.Proofs.Knowledge.Contents

/-! # Populating a store again

What a document makes of the entry and the types of an identifier depends on nothing but these and
the resource that the document has for the identifier (`Document.lookup?_populated`,
`Document.typesOf_populated`). Doing it twice is doing it once, as the entry is replaced by itself
and the types are all recorded already. Two documents do not meet if no identifier is one of both.
-/

namespace WorkflowChain

/-- Stores that cannot be told apart by what they hold for an identifier. -/
structure Store.Same (store other : Store) : Prop where
  entries : ∀ identifier, store.lookup? identifier = other.lookup? identifier
  types : ∀ identifier, store.typesOf identifier = other.typesOf identifier

/-- To record the same types again changes nothing. -/
theorem Store.recorded_recorded (known new : List String) :
    recorded (recorded known new) new = recorded known new := by
  have none : new.filter (· ∉ recorded known new) = [] := by
    rw [List.filter_eq_nil_iff]
    intro type member
    simpa using mem_recorded.mpr (.inr member)
  rw [recorded, none, List.eraseDups_nil, List.append_nil]

namespace Document

/-- The store that populating leaves behind. -/
def populated (document : Document) (store : Store) : Store := (document.populating.applyTo store).2

/-- The resource for an identifier; a document that cannot be decoded has none. -/
def resource? (document : Document) (identifier : String) : Option Resource :=
  match document.resources with
  | .ok resources => find? resources identifier
  | .error _ => none

section

variable (document : Document) (store : Store) (identifier : String)

/-- Whether populating succeeds, and with which count, does not depend on the store. -/
theorem outcome_populating :
    (document.populating.applyTo store).1 = document.resources.map List.length := by
  rw [applyTo_populating]
  cases document.resources <;> rfl

/-- In a populated store the resources of the document have their entries, and the others what they
had. -/
theorem lookup?_populated :
    (document.populated store).lookup? identifier =
      (document.resource? identifier).elim (store.lookup? identifier) fun resource =>
        some resource.entry := by
  rw [populated, applyTo_populating, resource?]
  cases decoded : document.resources with
  | error reason => rfl
  | ok resources =>
    exact document.lookup?_foldl_withResource (lists_of_resources decoded).distinct store identifier

theorem typesOf_populated :
    (document.populated store).typesOf identifier =
      (document.resource? identifier).elim (store.typesOf identifier) fun resource =>
        Store.recorded (store.typesOf identifier) (resource.types.map document.expand) := by
  rw [populated, applyTo_populating, resource?]
  cases decoded : document.resources with
  | error reason => rfl
  | ok resources =>
    exact document.typesOf_foldl_withResource (lists_of_resources decoded).distinct store identifier

end

theorem resource?_eq_none {document : Document} {identifier : String}
    (other : identifier ∉ document.identifiers) : document.resource? identifier = none := by
  rw [resource?]
  cases decoded : document.resources with
  | error reason => rfl
  | ok resources =>
    rw [find?_eq_none_iff, (lists_of_resources decoded).identifiers]
    exact other

/-- To populate a store twice leaves what populating it once does. -/
theorem same_populated_twice (document : Document) (store : Store) :
    (document.populated (document.populated store)).Same (document.populated store) := by
  constructor
  case entries =>
    intro identifier
    simp only [lookup?_populated]
    cases document.resource? identifier <;> rfl
  case types =>
    intro identifier
    simp only [typesOf_populated]
    cases document.resource? identifier with
    | none => rfl
    | some resource => exact Store.recorded_recorded _ _

/-- Documents about different identifiers can populate a store in either order. -/
theorem same_populated_swapped {document other : Document}
    (disjoint : document.identifiers.Disjoint other.identifiers) (store : Store) :
    (other.populated (document.populated store)).Same
      (document.populated (other.populated store)) := by
  have apart : ∀ identifier,
      document.resource? identifier = none ∨ other.resource? identifier = none := by
    intro identifier
    by_cases own : identifier ∈ document.identifiers
    · exact .inr (resource?_eq_none fun common => disjoint own common)
    · exact .inl (resource?_eq_none own)
  constructor
  case entries =>
    intro identifier
    simp only [lookup?_populated]
    rcases apart identifier with none | none <;> rw [none] <;> rfl
  case types =>
    intro identifier
    simp only [typesOf_populated]
    rcases apart identifier with none | none <;> rw [none] <;> rfl

/-- **Populating twice and in another order.** The outcomes are the same, also failures, and so are
the stores that are left behind. -/
theorem populated_idem_and_comm (store : Store) :
    (∀ document : Document,
      (document.populating.applyTo (document.populated store)).1 =
        (document.populating.applyTo store).1 ∧
      (document.populated (document.populated store)).Same (document.populated store)) ∧
    ∀ document other : Document, document.identifiers.Disjoint other.identifiers →
      (other.populating.applyTo (document.populated store)).1 =
        (other.populating.applyTo store).1 ∧
      (document.populating.applyTo (other.populated store)).1 =
        (document.populating.applyTo store).1 ∧
      (other.populated (document.populated store)).Same
        (document.populated (other.populated store)) := by
  simp only [outcome_populating, true_and]
  exact ⟨fun document => document.same_populated_twice store,
    fun _ _ disjoint => same_populated_swapped disjoint store⟩

/-- A document with types and entries of other identifiers. -/
def archive : Document where
  data := [("http://example.org/archive", .list [])]
  tools := [("ex:tool", .map [])]

/-- The key of a tool is the same in both documents, but only one expands it. -/
theorem populated_measurement_archive :
    measurement.identifiers.Disjoint archive.identifiers ∧
      (archive.populated (measurement.populated .empty)).size = 6 ∧
      (archive.populated (measurement.populated .empty)).Same
        (measurement.populated (archive.populated .empty)) := by
  have apart : ∀ identifier ∈ measurement.identifiers, identifier ∉ archive.identifiers := by
    decide
  have disjoint : measurement.identifiers.Disjoint archive.identifiers :=
    fun _ own common => apart _ own common
  exact ⟨disjoint, rfl, ((populated_idem_and_comm .empty).2 _ _ disjoint).2.2⟩

end Document

end WorkflowChain
