import WorkflowChain.Proofs.Knowledge.Agreement
import WorkflowChain.Proofs.Knowledge.Population
import WorkflowChain.Proofs.Knowledge.Vocabulary

/-! # Documents with and without a namespace

A document whose keys all use one prefix can be stored in two ways: if it declares the namespace of
the prefix, then its resources have identifiers, else they keep their keys. Both documents are
decoded alike, step by step, to resources that differ only in how names are written
(`Document.resources_alike`), and so the stores that they populate have identifiers and keys in the
same places (`Document.renames_of_populate`). As an identifier is looked for in both forms, such
stores agree (`Store.agreesOn_of_renames`).
-/

namespace WorkflowChain

variable {vocabulary : Vocabulary}

/-- A descriptor has identifiers where another has their keys. -/
structure Descriptor.Renames (vocabulary : Vocabulary) (descriptor other : Descriptor) : Prop where
  bindings : ∀ direction,
    vocabulary.Renames Eq (descriptor.bindings direction) (other.bindings direction)
  files : descriptor.files = other.files
  command : descriptor.command = other.command
  executor : descriptor.executor = other.executor
  datanodeType : descriptor.datanodeType = other.datanodeType

namespace Document

/-- A resource has identifiers where another has their keys. -/
structure Resource.Renames (vocabulary : Vocabulary) (resource other : Resource) : Prop where
  names : vocabulary.Names resource.identifier other.identifier
  entry : Entry.Related (Descriptor.Renames vocabulary) resource.entry other.entry

/-- A document declares the namespace of a vocabulary and no other, and all its keys are keys of the
vocabulary: those of its resources and those of the artifacts in its tools. -/
structure WrittenWith (document : Document) (vocabulary : Vocabulary) : Prop where
  namespaces : document.namespaces = [(vocabulary.label, vocabulary.space)]
  data : ∀ key ∈ document.data.keys, vocabulary.IsKey key
  tools : ∀ key ∈ document.tools.keys, vocabulary.IsKey key
  datanodeTypes : ∀ key ∈ document.datanodeTypes.keys, vocabulary.IsKey key
  artifacts : ∀ entry ∈ document.tools, ∀ descriptor,
    Descriptor.decode (Datum.ofValue entry.2) = .ok descriptor →
      ∀ direction, ∀ key ∈ (descriptor.bindings direction).keys, vocabulary.IsKey key

/-- The document without its table of prefixes. -/
def withoutNamespaces (document : Document) : Document := { document with namespaces := [] }

/-- Runs are compared without the reasons for their failures. -/
abbrev Alike {α β : Type} (results : α → β → Prop) :=
  RunsAlike (fun (_ _ : DocumentError) => True) results

theorem mapError_alike {α : Type} (outcome : Except ResourceFault α) (identifier other : String) :
    Alike Eq (outcome.mapError (DocumentError.invalidResource identifier))
      (outcome.mapError (DocumentError.invalidResource other)) := by
  cases outcome with
  | ok value => exact .ok rfl
  | error reason => exact .error trivial

theorem decodedFor_alike {α : Type} (outcome : Decoded α) (identifier other : String) :
    Alike Eq (decodedFor identifier outcome) (decodedFor other outcome) := by
  cases outcome with
  | ok value => exact .ok rfl
  | error reason => exact .error trivial

/-- The native type is given to the resources of the same name. -/
theorem giveType_alike {identifier key : String} (names : vocabulary.Names identifier key)
    (type : String) {known others : List Resource}
    (renames : List.Forall₂ (Resource.Renames vocabulary) known others) :
    Alike (List.Forall₂ (Resource.Renames vocabulary)) (giveType identifier type known)
      (giveType key type others) := by
  induction renames with
  | nil =>
    refine .ok (.cons ⟨names, .tool ?_⟩ .nil)
    exact ⟨fun direction => by cases direction <;> exact .nil, rfl, rfl, rfl, rfl⟩
  | @cons resource other rest following first later ih =>
    have same := first.names.eq_iff names
    by_cases here : resource.identifier = identifier
    · rw [giveType, giveType, if_pos here, if_pos (same.mp here)]
      obtain ⟨spelling, entry, types⟩ := resource
      obtain ⟨key, partner, tags⟩ := other
      cases first.entry with
      | dataset templates => exact .error trivial
      | tool related =>
        exact .ok (.cons ⟨first.names, .tool { related with datanodeType := rfl }⟩ later)
    · rw [giveType, giveType, if_neg here, if_neg (mt same.mpr here)]
      exact ih.bind fun _ _ rest => .ok (.cons first rest)

section Written

variable {document : Document} (written : document.WrittenWith vocabulary)
  (label : vocabulary.label ≠ typePrefix)

include written label

/-- With the namespace a key becomes an identifier, and without it stays a key. -/
theorem WrittenWith.names {key : String} (isKey : vocabulary.IsKey key) :
    vocabulary.Names (document.expand key) (document.withoutNamespaces.expand key) := by
  obtain ⟨name, isName, rfl⟩ := isKey
  have own : ([(vocabulary.label, vocabulary.space)] ++ [(typePrefix, typeNamespace)]).lookup
      vocabulary.label = some vocabulary.space := by simp
  have none : ([] ++ [(typePrefix, typeNamespace)]).lookup vocabulary.label = none := by
    simp [label]
  refine ⟨name, isName, ?_, ?_⟩
  · rw [expand, written.namespaces, Vocabulary.expand_key name isName, own]
    rfl
  · rw [expand, withoutNamespaces, Vocabulary.expand_key name isName, none]
    rfl

/-- A key is new in both runs or in neither. -/
theorem newIdentifier_alike {key : String} (isKey : vocabulary.IsKey key)
    {known others : List Resource}
    (renames : List.Forall₂ (Resource.Renames vocabulary) known others) :
    Alike vocabulary.Names (document.newIdentifier known key)
      (document.withoutNamespaces.newIdentifier others key) := by
  have names := written.names label isKey
  have same : (known.any fun resource => resource.identifier = document.expand key) =
      others.any fun resource => resource.identifier = document.withoutNamespaces.expand key := by
    induction renames with
    | nil => rfl
    | cons first _ ih =>
      rw [List.any_cons, List.any_cons, ih, decide_eq_decide.mpr (first.names.eq_iff names)]
  unfold newIdentifier
  dsimp only
  rw [same]
  split
  · exact .error trivial
  · exact .ok names

theorem addData_alike {entry : String × Value} (isKey : vocabulary.IsKey entry.1)
    {known others : List Resource}
    (renames : List.Forall₂ (Resource.Renames vocabulary) known others) :
    Alike (List.Forall₂ (Resource.Renames vocabulary)) (document.addData known entry)
      (document.withoutNamespaces.addData others entry) := by
  refine (newIdentifier_alike written label isKey renames).bind fun identifier key names => ?_
  refine (mapError_alike _ identifier key).bind_eq fun types => ?_
  refine (decodedFor_alike _ identifier key).bind_eq fun templates => ?_
  exact .ok (List.rel_append renames (.cons ⟨names, .dataset templates⟩ .nil))

/-- The bindings of a tool are stored in both runs, under names for the same keys. -/
theorem expandBindings_renames {bindings : Bindings}
    (keys : ∀ key ∈ bindings.keys, vocabulary.IsKey key) :
    vocabulary.Renames Eq (document.expandBindings bindings)
      (document.withoutNamespaces.expandBindings bindings) := by
  apply Vocabulary.Renames.ofEntries
  refine List.forall₂_map_left_iff.mpr (List.forall₂_map_right_iff.mpr (List.forall₂_same.mpr ?_))
  intro entry member
  exact ⟨written.names label (keys _ (List.mem_map.mpr ⟨entry, member, rfl⟩)), rfl⟩

/-- The descriptor of a tool is stored in both runs, under names for the same keys. -/
theorem expandDescriptor_renames {descriptor : Descriptor}
    (keys : ∀ direction, ∀ key ∈ (descriptor.bindings direction).keys, vocabulary.IsKey key) :
    Descriptor.Renames vocabulary (document.expandDescriptor descriptor)
      (document.withoutNamespaces.expandDescriptor descriptor) := by
  refine ⟨fun direction => ?_, rfl, rfl, rfl, rfl⟩
  cases direction with
  | input => exact expandBindings_renames written label (keys .input)
  | output => exact expandBindings_renames written label (keys .output)

theorem addTool_alike {entry : String × Value} (listed : entry ∈ document.tools)
    {known others : List Resource}
    (renames : List.Forall₂ (Resource.Renames vocabulary) known others) :
    Alike (List.Forall₂ (Resource.Renames vocabulary)) (document.addTool known entry)
      (document.withoutNamespaces.addTool others entry) := by
  have isKey := written.tools entry.1 (List.mem_map.mpr ⟨entry, listed, rfl⟩)
  refine (newIdentifier_alike written label isKey renames).bind fun identifier key names => ?_
  cases described : entry.2.entries?.isNone with
  | true => exact .error trivial
  | false =>
    cases decoded : Descriptor.decode (Datum.ofValue entry.2) with
    | error reason => exact .error trivial
    | ok descriptor =>
      have keys := written.artifacts entry listed descriptor decoded
      have added := expandDescriptor_renames written label keys
      exact .ok (List.rel_append renames (.cons ⟨names, .tool added⟩ .nil))

/-- **Resources with and without a namespace.** A document and the one without its namespaces are
decoded alike. -/
theorem resources_alike :
    Alike (List.Forall₂ (Resource.Renames vocabulary)) document.resources
      document.withoutNamespaces.resources := by
  have keys : ∀ {α : Type} {table : Table α} {entry : String × α}, entry ∈ table →
      entry.1 ∈ table.keys :=
    fun listed => List.mem_map.mpr ⟨_, listed, rfl⟩
  refine (RunsAlike.foldlM (fun entry listed _ _ renames => addData_alike written label
    (written.data _ (keys listed)) renames) .nil).bind fun _ _ data => ?_
  refine (RunsAlike.foldlM (fun entry listed _ _ renames => addTool_alike written label listed
    renames) data).bind fun _ _ all => ?_
  exact RunsAlike.foldlM (fun entry listed _ _ renames => giveType_alike
    (written.names label (written.datanodeTypes _ (keys listed))) entry.2 renames) all

end Written

/-! ## Stores -/

/-- Resources that are stored one after the other stand in the store as they stood in the list. -/
theorem renames_foldl_withResource (document other : Document) {resources others : List Resource}
    (renames : List.Forall₂ (Resource.Renames vocabulary) resources others) {store partner : Store}
    (before : vocabulary.Renames (Entry.Related (Descriptor.Renames vocabulary)) store.entries
      partner.entries) :
    vocabulary.Renames (Entry.Related (Descriptor.Renames vocabulary))
      (resources.foldl document.withResource store).entries
      (others.foldl other.withResource partner).entries := by
  induction renames generalizing store partner with
  | nil => exact before
  | cons first _ ih =>
    refine ih ?_
    rw [entries_withResource, entries_withResource]
    exact before.put first.names first.entry

/-- Populated stores have identifiers and keys in the same places. -/
theorem renames_of_populate {document : Document} {store partner : Store} {count other : Nat}
    (written : document.WrittenWith vocabulary) (label : vocabulary.label ≠ typePrefix)
    (full : document.populate .empty = .ok (store, count))
    (short : document.withoutNamespaces.populate .empty = .ok (partner, other)) :
    vocabulary.Renames (Entry.Related (Descriptor.Renames vocabulary)) store.entries
      partner.entries := by
  obtain ⟨resources, decoded, rfl, _⟩ := populate_ok full
  obtain ⟨others, again, rfl, _⟩ := populate_ok short
  have alike := resources_alike written label
  rw [decoded, again] at alike
  cases alike with
  | ok renames => exact renames_foldl_withResource _ _ renames .nil

end Document

/-! ## Answers -/

theorem Descriptor.templatesFor?_eq (descriptor : Descriptor) (direction : Direction)
    (artifact : String) :
    descriptor.templatesFor? direction artifact =
      ((descriptor.bindings direction).lookup artifact).or
        ((descriptor.bindings direction).lookup (Iri.compact artifact)) := by
  unfold templatesFor?
  dsimp only
  split
  next found => rw [found, Option.some_or]
  next none => rw [none, Option.none_or]

/-- A resolution has the entry under the identifier or else that under its compact form. -/
theorem Store.resolve_eq (store : Store) (identifier context : String) :
    store.resolve identifier context =
      ((store.entries.lookup identifier).or (store.entries.lookup (Iri.compact identifier))).elim
        (.error (.notFound identifier context)) .ok := by
  unfold resolve lookupCompact? lookup?
  cases store.entries.lookup identifier with
  | some entry => rfl
  | none => cases store.entries.lookup (Iri.compact identifier) <;> rfl

theorem eq_of_rel {α : Type} {found other : Option α} (related : Option.Rel Eq found other) :
    found = other := by
  cases related with
  | none => rfl
  | some same => rw [same]

/-- A descriptor with identifiers says the same about them as one with keys. -/
theorem Descriptor.Renames.agreesOn {descriptor other : Descriptor}
    (renames : Descriptor.Renames vocabulary descriptor other) :
    Descriptor.AgreesOn (fun _ _ => True) vocabulary.IsIdentifier descriptor other := by
  constructor
  case templates =>
    intro direction artifact known
    obtain ⟨_, names⟩ := known.exists_key
    rw [templatesFor?_eq, templatesFor?_eq]
    exact eq_of_rel ((renames.bindings direction).answers names)
  case outputs =>
    intro tool
    -- The artifact of an entry stands in the reason for a failure only.
    have files : RunsAlike (fun (_ _ : Failure) => True) (List.Forall₂ Eq)
        (descriptor.outputFileNames tool) (other.outputFileNames tool) := by
      refine RunsAlike.mapM ((renames.bindings .output).imp ?_)
      rintro ⟨artifact, templates⟩ ⟨key, declared⟩ ⟨_, same⟩
      obtain rfl : templates = declared := same
      dsimp only
      cases templates.head?.bind Template.downloadUrl? with
      | some url => exact .ok rfl
      | none => exact .error trivial
    rwa [List.forall₂_eq_eq_eq] at files
  case files => exact renames.files
  case command => exact renames.command
  case executor => exact renames.executor
  case datanodeType => exact renames.datanodeType

/-- **Stores with identifiers and with keys agree.** -/
theorem Store.agreesOn_of_renames {store other : Store}
    (renames : vocabulary.Renames (Entry.Related (Descriptor.Renames vocabulary)) store.entries
      other.entries) :
    store.AgreesOn (fun _ _ => True) vocabulary.IsIdentifier other := by
  intro identifier known context
  obtain ⟨_, names⟩ := known.exists_key
  have answers : RunsAlike (fun (_ _ : Failure) => True)
      (Entry.Related (Descriptor.Renames vocabulary)) (store.resolve identifier context)
      (other.resolve identifier context) := by
    rw [resolve_eq, resolve_eq]
    exact .ofOption (renames.answers names) trivial
  exact answers.imp fun _ _ related => related.imp fun _ _ => Descriptor.Renames.agreesOn

end WorkflowChain
