import WorkflowChain.Proofs.Knowledge.Acceptance

/-! # The native types of a document

A document gives native types to identifiers, by keys that may be spelled in several ways. Each
identifier has a tool in the store then, and the type of the tool is the one that is given last. So
the types are all honoured exactly if the keys of one identifier agree on its type
(`Document.StoresTypes`). A document whose keys do not agree is not refused for it: the only thing
that counts against a native type is that it is given to a data resource
(`Document.storesTypes_of_populate`).
-/

namespace WorkflowChain

/-- An identifier has the descriptor of a tool with a native type. -/
def Store.HasType (store : Store) (identifier type : String) : Prop :=
  ∃ descriptor, store.lookup? identifier = some (.tool descriptor) ∧
    descriptor.datanodeType = some type

/-- A store has at most one native type for an identifier. -/
theorem Store.HasType.unique {store : Store} {identifier type other : String}
    (has : store.HasType identifier type) (again : store.HasType identifier other) :
    type = other := by
  obtain ⟨descriptor, found, typed⟩ := has
  obtain ⟨partner, same, given⟩ := again
  obtain rfl : descriptor = partner := by
    rw [found] at same
    cases same
    rfl
  exact Option.some.inj (typed.symm.trans given)

namespace Document

/-- The document without native types. -/
def withoutTypes (document : Document) : Document := { document with datanodeTypes := [] }

/-- Keys that stand for one identifier have one type. -/
def AgreesOnTypes (document : Document) : Prop :=
  ∀ entry ∈ document.datanodeTypes, ∀ other ∈ document.datanodeTypes,
    document.expand entry.1 = document.expand other.1 → entry.2 = other.2

instance (document : Document) : Decidable document.AgreesOnTypes :=
  inferInstanceAs (Decidable (∀ entry ∈ document.datanodeTypes,
    ∀ other ∈ document.datanodeTypes, _ → _))

/-- All native types are found in a store, under the identifiers of their keys. -/
def Honours (document : Document) (store : Store) : Prop :=
  ∀ entry ∈ document.datanodeTypes, store.HasType (document.expand entry.1) entry.2

/-- How the native types of a document are stored. -/
structure StoresTypes (document : Document) (store : Store) : Prop where
  /-- Each key has a type in the store, which is the last for its identifier. -/
  last : ∀ entry ∈ document.datanodeTypes, ∃ type,
    document.nativeType? (document.expand entry.1) = some type ∧
      store.HasType (document.expand entry.1) type
  honoured : document.Honours store ↔ document.AgreesOnTypes

variable {document : Document}

/-- The last type of an identifier is that of one of the entries. -/
theorem exists_entry_of_lastType? {entries : Table String} {identifier type : String}
    (last : document.lastType? entries identifier = some type) :
    ∃ entry ∈ entries, document.expand entry.1 = identifier ∧ entry.2 = type := by
  obtain ⟨entry, chosen, rfl⟩ := Option.map_eq_some_iff.mp last
  obtain ⟨listed, named⟩ := List.mem_filter.mp (List.mem_of_getLast? chosen)
  exact ⟨entry, listed, of_decide_eq_true named, rfl⟩

section Populated

variable {store after : Store} {count : Nat}
  (populated : document.populate store = .ok (after, count))

include populated

/-- The last type for an identifier is stored, in a tool that the document describes besides, or
else in one that has nothing but the type. -/
theorem hasType_of_populate {entry : String × String} (listed : entry ∈ document.datanodeTypes) :
    ∃ type, document.nativeType? (document.expand entry.1) = some type ∧
      after.HasType (document.expand entry.1) type := by
  by_cases isTool : document.expand entry.1 ∈ document.tools.keys.map document.expand
  · obtain ⟨tool, described, same⟩ := document.exists_of_mem_expanded isTool
    obtain ⟨type, given⟩ : ∃ type, document.lastType? document.datanodeTypes
        (document.expand entry.1) = some type := exists_lastType? listed
    obtain ⟨descriptor, _, found⟩ := tool_of_populate populated described
    rw [same] at found
    refine ⟨type, given, _, found, ?_⟩
    rw [nativeType?, given, Option.some_or]
  · obtain ⟨type, given, found⟩ := type_of_populate populated listed isTool
    exact ⟨type, given, _, found, rfl⟩

/-- A populated store has the last type that is given to each identifier. -/
theorem storesLast_of_populate : document.StoresTypes after := by
  constructor
  case last => exact fun _ listed => hasType_of_populate populated listed
  case honoured =>
    constructor
    · intro honours entry listed other member same
      exact (honours entry listed).unique (same ▸ honours other member)
    · intro agrees entry listed
      obtain ⟨type, given, has⟩ := hasType_of_populate populated listed
      obtain ⟨last, member, same, rfl⟩ := exists_entry_of_lastType? given
      rwa [agrees entry listed last member same.symm]

end Populated

/-- Without its native types, a document is sound for the same reasons but one. -/
theorem isSound_iff_withoutTypes :
    document.IsSound ↔ document.withoutTypes.IsSound ∧ ∀ entry ∈ document.datanodeTypes,
      document.expand entry.1 ∉ document.data.keys.map document.expand := by
  constructor
  · intro sound
    exact ⟨⟨sound.keys, sound.data, sound.tools, fun _ listed => nomatch listed⟩, sound.types⟩
  · rintro ⟨sound, types⟩
    exact ⟨sound.keys, sound.data, sound.tools, types⟩

/-- **The native types of a document.** They are a reason to refuse the document exactly if one of
them is given to a data resource. If the document is accepted, then the last type for each
identifier is stored, and so all types are honoured if and only if the keys of each identifier agree
on its type. -/
theorem storesTypes_of_populate (document : Document) (store : Store) :
    ((∃ after count, document.populate store = .ok (after, count)) ↔
      (∃ after count, document.withoutTypes.populate store = .ok (after, count)) ∧
        ∀ entry ∈ document.datanodeTypes,
          document.expand entry.1 ∉ document.data.keys.map document.expand) ∧
    ∀ after count, document.populate store = .ok (after, count) → document.StoresTypes after := by
  constructor
  · rw [accepted_iff, accepted_iff]
    exact isSound_iff_withoutTypes
  · exact fun _ _ populated => storesLast_of_populate populated

/-- A document with native types of a tool and of an artifact, whose two spellings agree. -/
def instruments : Document where
  namespaces := [("ex", "http://example.org/")]
  data := [("ex:raw", .list [])]
  tools := [("ex:tool", .map [("datanodeType", .text "folder")])]
  datanodeTypes := [("ex:tool", "file"), ("ex:report", "text"),
    ("http://example.org/report", "text")]

/-- The type of the tool is the one that the section gives. -/
theorem storesTypes_instruments :
    ∃ after, instruments.populate .empty = .ok (after, 3) ∧ instruments.Honours after ∧
      after.HasType "http://example.org/tool" "file" ∧
      after.HasType "http://example.org/report" "text" := by
  obtain ⟨after, populated⟩ : ∃ after, instruments.populate .empty = .ok (after, 3) := ⟨_, rfl⟩
  have stores := (storesTypes_of_populate instruments .empty).2 after 3 populated
  have honours := stores.honoured.mpr (by decide)
  have tool := honours ("ex:tool", "file") (by decide)
  have report := honours ("ex:report", "text") (by decide)
  exact ⟨after, populated, honours, tool, report⟩

/-- Two spellings of one identifier have different types, and the first of them is lost. -/
theorem exists_lost_type :
    ∃ after, measurement.populate .empty = .ok (after, 4) ∧
      ("ex:report", "text") ∈ measurement.datanodeTypes ∧
      ("http://example.org/report", "file") ∈ measurement.datanodeTypes ∧
      measurement.expand "ex:report" = "http://example.org/report" ∧
      measurement.expand "http://example.org/report" = "http://example.org/report" ∧
      after.lookup? "http://example.org/report" = some (.tool { datanodeType := some "file" }) ∧
      ¬measurement.Honours after := by
  obtain ⟨after, populated, found⟩ : ∃ after, measurement.populate .empty = .ok (after, 4) ∧
      after.lookup? "http://example.org/report" = some (.tool { datanodeType := some "file" }) :=
    ⟨_, rfl, rfl⟩
  refine ⟨after, populated, by decide, by decide, by decide, by decide, found, ?_⟩
  intro honours
  have first : after.HasType "http://example.org/report" "text" :=
    honours ("ex:report", "text") (by decide)
  have last : after.HasType "http://example.org/report" "file" := ⟨_, found, rfl⟩
  exact absurd (first.unique last) (by decide)

end Document

end WorkflowChain
