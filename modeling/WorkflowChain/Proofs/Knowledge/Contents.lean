import WorkflowChain.Proofs.Knowledge.Population
import WorkflowChain.Proofs.Knowledge.Resources
import Mathlib.Data.Finset.Card

/-! # What a populated store holds

The resources of a document have different identifiers, so that none is written over another. After
they were stored, an identifier of the document has the entry of its resource, and the types of the
resource come after those recorded before, each of them once; every other identifier has what it had
(`Document.lookup?_foldl_withResource`, `Document.typesOf_foldl_withResource`). With what the
resources are, this describes the store by the document (`Document.Stored`).
-/

namespace WorkflowChain

namespace Store

/-- The known types and after them the new ones, each of them once. -/
def recorded (known new : List String) : List String :=
  known ++ (new.filter (· ∉ known)).eraseDups

theorem recorded_nil (known : List String) : recorded known [] = known := List.append_nil known

theorem recorded_cons (known rest : List String) (type : String) :
    recorded known (type :: rest) =
      recorded (if type ∈ known then known else known ++ [type]) rest := by
  unfold recorded
  by_cases member : type ∈ known
  · rw [List.filter_cons_of_neg (by simpa using member), if_pos member]
  · have others : (rest.filter (· ∉ known)).filter (fun other => !other == type) =
        rest.filter (· ∉ known ++ [type]) := by
      rw [List.filter_filter]
      refine List.filter_congr fun other _ => ?_
      simp only [List.mem_append, List.mem_singleton]
      by_cases same : other = type <;> simp [same]
    rw [List.filter_cons_of_pos (by simpa using member), List.eraseDups_cons, others,
      if_neg member, List.append_assoc]
    rfl

theorem mem_recorded {known new : List String} {type : String} :
    type ∈ recorded known new ↔ type ∈ known ∨ type ∈ new := by
  rw [recorded, List.mem_append, List.mem_eraseDups, List.mem_filter]
  by_cases member : type ∈ known <;> simp [member]

theorem typesOf_addType (store : Store) (identifier type wanted : String) :
    (store.addType identifier type).typesOf wanted =
      if wanted = identifier then
        if type ∈ store.typesOf wanted then store.typesOf wanted
        else store.typesOf wanted ++ [type]
      else store.typesOf wanted := by
  rw [addType, typesOf, Table.lookup_put]
  by_cases same : wanted = identifier
  · subst same
    rw [if_pos rfl, if_pos rfl]
    rfl
  · rw [if_neg same, if_neg same]
    rfl

/-- Types that are added one after the other are all recorded. -/
theorem typesOf_foldl_addType (store : Store) (identifier wanted : String) (full : String → String)
    (types : List String) :
    (types.foldl (fun store type => store.addType identifier (full type)) store).typesOf wanted =
      if wanted = identifier then recorded (store.typesOf wanted) (types.map full)
      else store.typesOf wanted := by
  induction types generalizing store with
  | nil => rw [List.map_nil, recorded_nil, ite_self, List.foldl_nil]
  | cons type rest ih =>
    rw [List.foldl_cons, ih, typesOf_addType, List.map_cons, recorded_cons]
    by_cases same : wanted = identifier
    · rw [if_pos same, if_pos same, if_pos same]
    · rw [if_neg same, if_neg same, if_neg same]

end Store

/-- The keys of a table to which entries are added come before the new ones, each of them once. -/
theorem Table.keys_foldl_put {α : Type} (table : Table α) (entries : List (String × α)) :
    (entries.foldl (fun table entry => table.put entry.1 entry.2) table).keys =
      Store.recorded table.keys (entries.map Prod.fst) := by
  induction entries generalizing table with
  | nil => exact (Store.recorded_nil _).symm
  | cons entry rest ih => rw [List.foldl_cons, ih, keys_put, List.map_cons, Store.recorded_cons]

/-- A table has the keys of its entries in the order in which they come first. -/
theorem Table.keys_ofEntries {α : Type} (entries : List (String × α)) :
    (ofEntries entries).keys = (entries.map Prod.fst).eraseDups := by
  have all : (entries.map Prod.fst).filter (· ∉ ([] : List String)) = entries.map Prod.fst :=
    List.filter_eq_self.mpr fun _ _ => decide_eq_true List.not_mem_nil
  rw [ofEntries, keys_foldl_put, keys, List.map_nil, Store.recorded, all, List.nil_append]

namespace Document

variable (document : Document)

/-! ## Resources in the store -/

/-- A resource that is put into the store has its entry there, and every other one what it had. -/
theorem lookup?_withResource (store : Store) (resource : Resource) (identifier : String) :
    (document.withResource store resource).lookup? identifier =
      if identifier = resource.identifier then some resource.entry
      else store.lookup? identifier := by
  rw [Store.lookup?, entries_withResource, Table.lookup_put]
  rfl

/-- A resource that is put into the store has its types recorded there, and no other one has. -/
theorem typesOf_withResource (store : Store) (resource : Resource) (identifier : String) :
    (document.withResource store resource).typesOf identifier =
      if identifier = resource.identifier then
        Store.recorded (store.typesOf identifier) (resource.types.map document.expand)
      else store.typesOf identifier :=
  Store.typesOf_foldl_addType store resource.identifier identifier document.expand resource.types

section Stored

variable {resources : List Resource} (distinct : (resources.map Resource.identifier).Nodup)

include distinct

/-- What is seen of an identifier in the store is affected by its own resource, if there is one, and
by no other. -/
theorem view_foldl_withResource {α : Type} {identifier : String} (view : Store → α)
    (effect : Resource → α → α)
    (each : ∀ store resource, view (document.withResource store resource) =
      if identifier = resource.identifier then effect resource (view store) else view store)
    (store : Store) :
    view (resources.foldl document.withResource store) =
      (find? resources identifier).elim (view store) fun resource =>
        effect resource (view store) := by
  induction resources generalizing store with
  | nil => rfl
  | cons resource rest ih =>
    have ⟨fresh, others⟩ := List.nodup_cons.mp distinct
    rw [List.foldl_cons, ih others, each]
    by_cases same : identifier = resource.identifier
    · -- No later resource has the identifier, so nothing is written over this one.
      subst same
      rw [if_pos rfl, find?_cons_self, find?_eq_none_iff.mpr fresh]
      rfl
    · rw [if_neg same, find?_cons_of_ne (Ne.symm same)]

/-- After all resources were put into the store, each has its own entry. -/
theorem lookup?_foldl_withResource (store : Store) (identifier : String) :
    (resources.foldl document.withResource store).lookup? identifier =
      (find? resources identifier).elim (store.lookup? identifier) fun resource =>
        some resource.entry :=
  document.view_foldl_withResource distinct (·.lookup? identifier)
    (fun resource _ => some resource.entry) (document.lookup?_withResource · · identifier) store

/-- After all resources were put into the store, each has its own types recorded. -/
theorem typesOf_foldl_withResource (store : Store) (identifier : String) :
    (resources.foldl document.withResource store).typesOf identifier =
      (find? resources identifier).elim (store.typesOf identifier) fun resource =>
        Store.recorded (store.typesOf identifier) (resource.types.map document.expand) :=
  document.view_foldl_withResource distinct (·.typesOf identifier)
    (fun resource known => Store.recorded known (resource.types.map document.expand))
    (document.typesOf_withResource · · identifier) store

/-- A store without entries gets one for each resource. -/
theorem size_foldl_withResource {store : Store} (empty : store.size = 0) :
    (resources.foldl document.withResource store).size = resources.length := by
  have entries : (resources.foldl document.withResource store).entries =
      resources.foldl (fun table resource => table.put resource.identifier resource.entry)
        store.entries := by
    refine (List.foldl_hom Store.entries fun store resource => ?_).symm
    exact (document.entries_withResource store resource).symm
  let fresh : Table Entry := resources.map fun resource => (resource.identifier, resource.entry)
  have keys : Table.keys ([] ++ fresh) = resources.map Resource.identifier := by
    rw [List.nil_append, Table.keys, List.map_map]
    rfl
  have none : store.entries = [] := List.eq_nil_of_length_eq_zero empty
  have put := Table.foldl_put_of_nodup (keys.symm ▸ distinct)
  rw [List.foldl_map] at put
  rw [Store.size, entries, none, put, List.nil_append, List.length_map]

end Stored

/-! ## Stored tools -/

/-- Bindings are stored for what is documented for one side of a tool: the artifacts have full IRIs,
and where two of them become one, the last one counts. -/
structure StoresBindings (document : Document) (documented stored : Bindings) : Prop where
  /-- The artifacts are stored under their full IRIs, in the order of the document. -/
  keys : stored.keys = (documented.keys.map document.expand).eraseDups
  /-- An artifact has the templates that are documented last for it. -/
  templates : ∀ identifier, stored.lookup identifier =
    ((documented.filter fun binding => document.expand binding.1 = identifier).getLast?).map
      Prod.snd
  /-- If all artifacts have IRIs of their own, each binding is stored with its key expanded. -/
  exact : (documented.keys.map document.expand).Nodup →
    stored = documented.map fun binding => (document.expand binding.1, binding.2)

/-- A descriptor is stored for the one that is documented under an identifier: nothing is changed
but the keys of the artifacts and, if the document gives one, the native type. -/
structure StoresTool (document : Document) (identifier : String) (documented stored : Descriptor) :
    Prop where
  input : document.StoresBindings documented.input stored.input
  output : document.StoresBindings documented.output stored.output
  files : stored.files = documented.files
  command : stored.command = documented.command
  executor : stored.executor = documented.executor
  installCommand : stored.installCommand = documented.installCommand
  datanodeType : stored.datanodeType =
    (document.nativeType? identifier).or documented.datanodeType

/-- Bindings are stored with their keys expanded. -/
theorem storesBindings_expandBindings (documented : Bindings) :
    document.StoresBindings documented (document.expandBindings documented) := by
  let expanded : List (String × List Template) :=
    documented.map fun binding => (document.expand binding.1, binding.2)
  have keys : expanded.map Prod.fst = documented.keys.map document.expand := by
    rw [Table.keys, List.map_map, List.map_map]
    rfl
  constructor
  case keys => rw [← keys, ← Table.keys_ofEntries expanded, expandBindings]
  case templates =>
    intro identifier
    rw [expandBindings, Table.lookup_ofEntries, List.filter_map, List.getLast?_map, Option.map_map]
    rfl
  case exact =>
    intro distinct
    have unique : Table.keys expanded = documented.keys.map document.expand := keys
    exact Table.ofEntries_eq_self (unique ▸ distinct)

/-- A descriptor is stored with its artifact keys expanded and its native type given. -/
theorem storesTool_expandDescriptor (identifier : String) (documented : Descriptor) :
    document.StoresTool identifier documented { document.expandDescriptor documented with
      datanodeType := (document.nativeType? identifier).or documented.datanodeType } where
  input := document.storesBindings_expandBindings documented.input
  output := document.storesBindings_expandBindings documented.output
  files := rfl
  command := rfl
  executor := rfl
  installCommand := rfl
  datanodeType := rfl

/-! ## Populated stores -/

/-- What populating a store with a document made of it, with the count of what was stored. -/
structure Stored (document : Document) (store after : Store) (count : Nat) : Prop where
  /-- The keys of data resources and of tools have different identifiers. -/
  keys : ((document.data.keys ++ document.tools.keys).map document.expand).Nodup
  counted : count = document.identifiers.toFinset.card
  size : store.size = 0 → after.size = count
  /-- Data resources have their templates, and their types besides those recorded before. -/
  data : ∀ entry ∈ document.data, ∃ templates types,
    Entry.decodeTemplates (Datum.ofValue entry.2) = .ok templates ∧
    resourceTypes entry.2 = .ok types ∧
    after.lookup? (document.expand entry.1) = some (.dataset templates) ∧
    after.typesOf (document.expand entry.1) =
      Store.recorded (store.typesOf (document.expand entry.1)) (types.map document.expand)
  /-- Tools have their descriptors, with full IRIs as the keys of artifacts and the native type that
  the document gives them, if any. -/
  tool : ∀ entry ∈ document.tools, ∃ documented stored,
    Descriptor.decode (Datum.ofValue entry.2) = .ok documented ∧
    after.lookup? (document.expand entry.1) = some (.tool stored) ∧
    document.StoresTool (document.expand entry.1) documented stored
  /-- What has a native type and is no tool has nothing else. -/
  type : ∀ entry ∈ document.datanodeTypes,
    document.expand entry.1 ∉ document.tools.keys.map document.expand →
      ∃ type, document.nativeType? (document.expand entry.1) = some type ∧
        after.lookup? (document.expand entry.1) = some (.tool { datanodeType := some type })
  /-- Types are recorded for data resources only. -/
  untyped : ∀ identifier ∉ document.data.keys.map document.expand,
    after.typesOf identifier = store.typesOf identifier
  /-- Nothing is said about the other identifiers. -/
  frame : ∀ identifier ∉ document.identifiers,
    after.lookup? identifier = store.lookup? identifier ∧
      after.typesOf identifier = store.typesOf identifier

theorem exists_of_mem_expanded {α : Type} {table : Table α}
    {identifier : String} (member : identifier ∈ table.keys.map document.expand) :
    ∃ entry ∈ table, document.expand entry.1 = identifier := by
  rw [Table.keys, List.map_map] at member
  exact List.mem_map.mp member

/-- Resources that are no data resources have no types. -/
theorem Lists.types_eq_nil {document : Document} {resources : List Resource}
    (lists : document.Lists resources) {identifier : String} {resource : Resource}
    (found : find? resources identifier = some resource)
    (other : identifier ∉ document.data.keys.map document.expand) : resource.types = [] := by
  have known : identifier ∈ document.identifiers := by
    rw [← lists.identifiers]
    by_contra unknown
    rw [find?_eq_none_iff.mpr unknown] at found
    cases found
  rw [Document.identifiers, List.map_append, List.map_append, List.mem_append,
    List.mem_append] at known
  by_cases tool : identifier ∈ document.tools.keys.map document.expand
  · obtain ⟨item, listed, rfl⟩ := document.exists_of_mem_expanded tool
    obtain ⟨_, _, kept⟩ := lists.tool item listed
    rw [kept] at found
    cases found
    rfl
  · have typed : identifier ∈ document.datanodeTypes.keys.map document.expand :=
      known.resolve_left fun either => either.elim other tool
    obtain ⟨item, listed, rfl⟩ := document.exists_of_mem_expanded typed
    obtain ⟨_, _, kept⟩ := lists.type item listed tool
    rw [kept] at found
    cases found
    rfl

section Populated

variable {document : Document} {store after : Store} {count : Nat}
  (populated : document.populate store = .ok (after, count))

include populated

/-- The store has the resources of the document besides what it had before. -/
theorem exists_resources_of_populate :
    ∃ resources, document.Lists resources ∧ count = resources.length ∧
      after = resources.foldl document.withResource store := by
  obtain ⟨resources, decoded, rfl, rfl⟩ := populate_ok populated
  exact ⟨resources, lists_of_resources decoded, rfl, rfl⟩

/-- A data resource is stored with its templates and its types. -/
theorem data_of_populate {entry : String × Value} (listed : entry ∈ document.data) :
    ∃ templates types, Entry.decodeTemplates (Datum.ofValue entry.2) = .ok templates ∧
      resourceTypes entry.2 = .ok types ∧
      after.lookup? (document.expand entry.1) = some (.dataset templates) ∧
      after.typesOf (document.expand entry.1) =
        Store.recorded (store.typesOf (document.expand entry.1)) (types.map document.expand) := by
  obtain ⟨resources, lists, _, rfl⟩ := exists_resources_of_populate populated
  obtain ⟨templates, types, loaded, typed, found⟩ := lists.data entry listed
  refine ⟨templates, types, loaded, typed, ?_, ?_⟩
  · rw [document.lookup?_foldl_withResource lists.distinct, found, Option.elim_some]
  · rw [document.typesOf_foldl_withResource lists.distinct, found, Option.elim_some]

/-- A tool is stored with its expanded descriptor and its native type. -/
theorem tool_of_populate {entry : String × Value} (listed : entry ∈ document.tools) :
    ∃ descriptor, Descriptor.decode (Datum.ofValue entry.2) = .ok descriptor ∧
      after.lookup? (document.expand entry.1) =
        some (.tool { document.expandDescriptor descriptor with
          datanodeType :=
            (document.nativeType? (document.expand entry.1)).or descriptor.datanodeType }) := by
  obtain ⟨resources, lists, _, rfl⟩ := exists_resources_of_populate populated
  obtain ⟨descriptor, described, found⟩ := lists.tool entry listed
  refine ⟨descriptor, described, ?_⟩
  rw [document.lookup?_foldl_withResource lists.distinct, found, Option.elim_some]

/-- What has a native type and is no tool is stored with the type alone. -/
theorem type_of_populate {entry : String × String} (listed : entry ∈ document.datanodeTypes)
    (other : document.expand entry.1 ∉ document.tools.keys.map document.expand) :
    ∃ type, document.nativeType? (document.expand entry.1) = some type ∧
      after.lookup? (document.expand entry.1) = some (.tool { datanodeType := some type }) := by
  obtain ⟨resources, lists, _, rfl⟩ := exists_resources_of_populate populated
  obtain ⟨type, given, found⟩ := lists.type entry listed other
  refine ⟨type, given, ?_⟩
  rw [document.lookup?_foldl_withResource lists.distinct, found, Option.elim_some]

end Populated

/-- **Populating stores the document and touches nothing else.** -/
theorem stored_of_populate {document : Document} {store after : Store} {count : Nat}
    (populated : document.populate store = .ok (after, count)) :
    document.Stored store after count := by
  obtain ⟨resources, lists, rfl, rfl⟩ := exists_resources_of_populate populated
  have entry := document.lookup?_foldl_withResource lists.distinct store
  have types := document.typesOf_foldl_withResource lists.distinct store
  constructor
  case keys => exact lists.keys
  case counted =>
    have same : document.identifiers.toFinset = (resources.map Resource.identifier).toFinset := by
      ext identifier
      rw [List.mem_toFinset, List.mem_toFinset, lists.identifiers]
    rw [same, List.toFinset_card_of_nodup lists.distinct, List.length_map]
  case size => exact document.size_foldl_withResource lists.distinct
  case data => exact fun _ listed => data_of_populate populated listed
  case tool =>
    intro entry listed
    obtain ⟨documented, described, found⟩ := tool_of_populate populated listed
    exact ⟨documented, _, described, found, document.storesTool_expandDescriptor _ documented⟩
  case type => exact fun _ listed other => type_of_populate populated listed other
  case untyped =>
    intro identifier other
    rw [types]
    cases found : find? resources identifier with
    | none => rfl
    | some resource =>
      rw [Option.elim_some, lists.types_eq_nil found other]
      exact Store.recorded_nil _
  case frame =>
    intro identifier other
    have none : find? resources identifier = none := by
      rw [find?_eq_none_iff, lists.identifiers]
      exact other
    rw [entry, types, none]
    exact ⟨rfl, rfl⟩

/-- A document with an input, a result, a tool, and native types of the tool and of an artifact. -/
def measurement : Document where
  namespaces := [("ex", "http://example.org/")]
  data := [
    ("ex:raw", .list [.map [("dataresource", .map
      [("downloadUrl", .text "raw.csv"), ("type", .text "ex:Samples")])]]),
    ("ex:result", .list [])]
  tools := [("ex:tool", .map [("command", .text "tool.sh")])]
  datanodeTypes := [("ex:tool", "file"), ("ex:report", "text"),
    ("http://example.org/report", "file")]

/-- The document in which the tool reads and writes artifacts, two of which are one. -/
def spelledMeasurement : Document :=
  { measurement with
    tools := [("ex:tool", .map [
      ("command", .text "tool.sh"),
      ("input", .map [
        ("ex:raw", .list []),
        ("http://example.org/raw", .list [.map [("function", .map
          [("location", .text "raw.csv")])]])]),
      ("output", .map [("ex:report", .list []), ("ex:result", .list [])])])] }

/-- The types of the input come after the one that was recorded before, and the tool has one binding
for the input that the document spells in two ways. -/
theorem stored_spelledMeasurement :
    ∃ store after tool, store.size = 2 ∧ spelledMeasurement.populate store = .ok (after, 4) ∧
      spelledMeasurement.Stored store after 4 ∧
      store.typesOf "http://example.org/raw" = ["http://example.org/Samples"] ∧
      after.typesOf "http://example.org/raw" =
        ["http://example.org/Samples", "https://w3id.org/emmo/domain/oteio#DataSource"] ∧
      after.lookup? "http://example.org/tool" = some (.tool tool) ∧
      tool.input = [("http://example.org/raw", [⟨"function", [("location", .text "raw.csv")]⟩])] ∧
      tool.output = [("http://example.org/report", []), ("http://example.org/result", [])] ∧
      tool.command = some "tool.sh" ∧ tool.datanodeType = some "file" := by
  let store := ((Store.empty.insert "http://example.org/tool" (.dataset [])).insert "old"
    (.dataset [])).addType "http://example.org/raw" "http://example.org/Samples"
  obtain ⟨after, populated, types, tool, found, bindings⟩ : ∃ after,
      spelledMeasurement.populate store = .ok (after, 4) ∧
      after.typesOf "http://example.org/raw" =
        ["http://example.org/Samples", "https://w3id.org/emmo/domain/oteio#DataSource"] ∧
      ∃ tool, after.lookup? "http://example.org/tool" = some (.tool tool) ∧
        tool.input =
          [("http://example.org/raw", [⟨"function", [("location", .text "raw.csv")]⟩])] ∧
        tool.output = [("http://example.org/report", []), ("http://example.org/result", [])] ∧
        tool.command = some "tool.sh" ∧ tool.datanodeType = some "file" :=
    ⟨_, rfl, rfl, _, rfl, rfl, rfl, rfl, rfl⟩
  exact ⟨store, after, tool, rfl, populated, stored_of_populate populated, rfl, types, found,
    bindings⟩

end Document

end WorkflowChain
