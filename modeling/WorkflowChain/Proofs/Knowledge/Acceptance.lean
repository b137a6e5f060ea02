import WorkflowChain.Proofs.Knowledge.ArtifactKeys

/-! # Documents that are accepted

A document is refused for what one of its resources is, for two keys of data resources and tools
that have one identifier, or for a native type that is given to a data resource, and for nothing
else (`Document.accepted_iff`). The store that is populated does not matter. Neither does what the
native types are, nor how often an identifier is given one.
-/

namespace WorkflowChain

namespace Document

/-- What a document has to be like for its resources to be stored. -/
structure IsSound (document : Document) : Prop where
  /-- The keys of data resources and of tools have different identifiers. -/
  keys : ((document.data.keys ++ document.tools.keys).map document.expand).Nodup
  data : ∀ entry ∈ document.data, ∃ types templates, resourceTypes entry.2 = .ok types ∧
    Entry.decodeTemplates (Datum.ofValue entry.2) = .ok templates
  tools : ∀ entry ∈ document.tools, ∃ fields descriptor, entry.2 = .map fields ∧
    Descriptor.decode (Datum.ofValue entry.2) = .ok descriptor
  /-- No data resource is given a native type. -/
  types : ∀ entry ∈ document.datanodeTypes,
    document.expand entry.1 ∉ document.data.keys.map document.expand

variable {document : Document}

/-! ## Adding resources -/

section Fresh

variable {known : List Resource} {key : String} {resource : Value}
  (fresh : document.expand key ∉ known.map Resource.identifier)

include fresh

theorem newIdentifier_of_notMem :
    document.newIdentifier known key = .ok (document.expand key) := by
  have unknown : (known.any fun resource => resource.identifier = document.expand key) = false := by
    simpa using fresh
  unfold newIdentifier
  dsimp only
  rw [unknown]
  rfl

theorem addData_eq {types : List String} {templates : List Template}
    (typed : resourceTypes resource = .ok types)
    (loaded : Entry.decodeTemplates (Datum.ofValue resource) = .ok templates) :
    document.addData known (key, resource) =
      .ok (known ++ [⟨document.expand key, .dataset templates, types⟩]) := by
  rw [addData, newIdentifier_of_notMem fresh, typed, loaded]
  rfl

theorem addTool_eq {descriptor : Descriptor} (isMap : ∃ fields, resource = .map fields)
    (described : Descriptor.decode (Datum.ofValue resource) = .ok descriptor) :
    document.addTool known (key, resource) =
      .ok (known ++ [⟨document.expand key, .tool (document.expandDescriptor descriptor), []⟩]) := by
  obtain ⟨fields, rfl⟩ := isMap
  rw [addTool, newIdentifier_of_notMem fresh, described]
  rfl

end Fresh

/-- If each entry of a section adds its resource under a new identifier, then all do, provided that
their identifiers are different. -/
theorem exists_foldlM_add {α : Type} {add : List Resource → String × α →
      Except DocumentError (List Resource)} {entries : Table α} {known : List Resource}
    (step : ∀ entry ∈ entries, ∀ known,
      document.expand entry.1 ∉ known.map Resource.identifier →
        ∃ resource, add known entry = .ok (known ++ [resource]) ∧
          resource.identifier = document.expand entry.1)
    (distinct : (known.map Resource.identifier ++ entries.keys.map document.expand).Nodup) :
    ∃ after, entries.foldlM add known = .ok after := by
  induction entries generalizing known with
  | nil => exact ⟨known, rfl⟩
  | cons entry rest ih =>
    have ⟨own, others⟩ := List.forall_mem_cons.mp step
    have keys : Table.keys (entry :: rest) = entry.1 :: Table.keys rest := rfl
    rw [keys, List.map_cons] at distinct
    have fresh : document.expand entry.1 ∉ known.map Resource.identifier :=
      fun member => (List.nodup_append.mp distinct).2.2 _ member _ List.mem_cons_self rfl
    obtain ⟨resource, added, named⟩ := own known fresh
    have later : ((known ++ [resource]).map Resource.identifier ++
        (Table.keys rest).map document.expand).Nodup := by
      rw [List.map_append, List.map_singleton, named, ← List.append_cons]
      exact distinct
    obtain ⟨after, ran⟩ := ih others later
    exact ⟨after, List.foldlM_cons (m := Except DocumentError) ▸ bind_ok.mpr ⟨_, added, ran⟩⟩

/-! ## Giving native types -/

/-- A native type can be given to a tool, and to what is not known yet. -/
theorem exists_giveType {identifier : String} (type : String) {known : List Resource}
    (tool : ∀ resource, find? known identifier = some resource →
      ∃ descriptor, resource.entry = .tool descriptor) :
    ∃ after, giveType identifier type known = .ok after := by
  induction known with
  | nil => exact ⟨_, rfl⟩
  | cons resource rest ih =>
    by_cases here : resource.identifier = identifier
    · subst here
      obtain ⟨descriptor, described⟩ := tool resource (find?_cons_self resource rest)
      rw [giveType, if_pos rfl, described]
      exact ⟨_, rfl⟩
    · rw [find?_cons_of_ne here] at tool
      obtain ⟨after, given⟩ := ih tool
      rw [giveType, if_neg here, given]
      exact ⟨_, rfl⟩

/-- Native types can be given unless one of their identifiers has a dataset. -/
theorem exists_foldlM_giveType {entries : Table String} {known : List Resource}
    (tools : ∀ entry ∈ entries, ∀ resource,
      find? known (document.expand entry.1) = some resource →
        ∃ descriptor, resource.entry = .tool descriptor) :
    ∃ after, entries.foldlM document.addDatanodeType known = .ok after := by
  induction entries generalizing known with
  | nil => exact ⟨known, rfl⟩
  | cons entry rest ih =>
    have ⟨own, others⟩ := List.forall_mem_cons.mp tools
    obtain ⟨middle, given⟩ := exists_giveType entry.2 own
    have later : ∀ other ∈ rest, ∀ resource,
        find? middle (document.expand other.1) = some resource →
          ∃ descriptor, resource.entry = .tool descriptor := by
      intro other listed resource found
      rw [find?_giveType given] at found
      split at found
      · -- What was given a type before is a tool now.
        cases found
        rcases find? known (document.expand entry.1) with _ | ⟨_, _ | _, _⟩ <;> exact ⟨_, rfl⟩
      · exact others other listed resource found
    obtain ⟨after, ran⟩ := ih later
    exact ⟨after, List.foldlM_cons (m := Except DocumentError) ▸ bind_ok.mpr ⟨_, given, ran⟩⟩

/-! ## All resources -/

/-- A document whose resources are decoded is sound. -/
theorem isSound_of_resources {resources : List Resource}
    (decoded : document.resources = .ok resources) : document.IsSound := by
  have lists := lists_of_resources decoded
  constructor
  case keys => exact lists.keys
  case data =>
    intro entry listed
    obtain ⟨templates, types, loaded, typed, _⟩ := lists.data entry listed
    exact ⟨types, templates, typed, loaded⟩
  case tools =>
    intro entry listed
    obtain ⟨_, _, rest⟩ := bind_ok.mp decoded
    obtain ⟨_, described, _⟩ := bind_ok.mp rest
    obtain ⟨_, _, added⟩ := exists_step_of_foldlM_ok described listed
    obtain ⟨fields, isMap⟩ := exists_fields_of_addTool added
    obtain ⟨descriptor, described, _⟩ := lists.tool entry listed
    exact ⟨fields, descriptor, isMap, described⟩
  case types =>
    intro entry listed isData
    obtain ⟨resource, member, same⟩ := document.exists_of_mem_expanded isData
    obtain ⟨_, _, _, _, found⟩ := lists.data resource member
    rw [same] at found
    have noTool : document.expand entry.1 ∉ document.tools.keys.map document.expand := by
      have keys := lists.keys
      rw [List.map_append] at keys
      exact fun tool => (List.nodup_append.mp keys).2.2 _ isData _ tool rfl
    obtain ⟨_, _, typed⟩ := lists.type entry listed noTool
    rw [typed] at found
    cases found

/-- The resources of a sound document are decoded. -/
theorem IsSound.exists_resources (sound : document.IsSound) :
    ∃ resources, document.resources = .ok resources := by
  have keys := sound.keys
  rw [List.map_append] at keys
  obtain ⟨data, loaded⟩ : ∃ data, document.data.foldlM document.addData [] = .ok data := by
    refine exists_foldlM_add (fun entry listed known fresh => ?_) keys.of_append_left
    obtain ⟨types, templates, typed, decoded⟩ := sound.data entry listed
    exact ⟨_, addData_eq fresh typed decoded, rfl⟩
  obtain ⟨data, rfl, isData, distinct⟩ :=
    foldlM_add_ok document.addData document.IsData addData_ok loaded List.nodup_nil
  have dataKeys := map_identifier_of_forall₂ isData IsData.identifier
  obtain ⟨all, described⟩ : ∃ all, document.tools.foldlM document.addTool data = .ok all := by
    refine exists_foldlM_add (fun entry listed known fresh => ?_) (dataKeys ▸ keys)
    obtain ⟨fields, descriptor, isMap, decoded⟩ := sound.tools entry listed
    exact ⟨_, addTool_eq fresh ⟨fields, isMap⟩ decoded, rfl⟩
  obtain ⟨tools, rfl, isTool, _⟩ := foldlM_add_ok document.addTool document.IsTool addTool_ok
    described distinct
  obtain ⟨resources, given⟩ : ∃ resources,
      document.datanodeTypes.foldlM document.addDatanodeType (data ++ tools) = .ok resources := by
    refine exists_foldlM_giveType fun entry listed resource found => ?_
    have named : resource.identifier = document.expand entry.1 := by
      simpa using List.find?_some found
    rcases List.mem_append.mp (List.mem_of_find?_eq_some found) with member | member
    · have isKey := List.mem_map_of_mem (f := Resource.identifier) member
      rw [dataKeys, named] at isKey
      exact absurd isKey (sound.types entry listed)
    · obtain ⟨_, _, own⟩ := exists_of_forall₂ isTool.flip member
      obtain ⟨_, _, tool⟩ := own.descriptor
      exact ⟨_, tool⟩
  exact ⟨resources, bind_ok.mpr ⟨_, loaded, bind_ok.mpr ⟨_, described, given⟩⟩⟩

/-- Once the resources are decoded, populating succeeds with every store. -/
theorem populate_eq {resources : List Resource} (decoded : document.resources = .ok resources)
    (store : Store) :
    document.populate store =
      .ok (resources.foldl document.withResource store, resources.length) := by
  rw [populate, applyTo_populating, decoded]
  rfl

/-- **Acceptance.** A store can be populated with a document exactly if the document is sound. -/
theorem accepted_iff (document : Document) (store : Store) :
    (∃ after count, document.populate store = .ok (after, count)) ↔ document.IsSound := by
  constructor
  · rintro ⟨_, _, populated⟩
    obtain ⟨_, decoded, _⟩ := populate_ok populated
    exact isSound_of_resources decoded
  · intro sound
    obtain ⟨resources, decoded⟩ := sound.exists_resources
    exact ⟨_, _, populate_eq decoded store⟩

end Document

end WorkflowChain
