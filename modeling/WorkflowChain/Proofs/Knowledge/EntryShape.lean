import WorkflowChain.Proofs.Knowledge.EntryForm

/-! # The shape of store entries

A list is read as a dataset if every item stands for a template, and a map is read as a tool. But a
record is also read from a positional list of its fields, and the descriptor of a tool is a record
in which every field may be absent. So a list with an item that stands for no template is not
refused if its items are the first fields of a descriptor: it is a tool then
(`Entry.decode_iff_readFrom`). Only where this cannot be does the shape of a value decide what it
stands for (`Entry.shapeDecides_iff`).
-/

namespace WorkflowChain

theorem Value.exists_standsFor_iff {items : List Value} :
    (∃ templates, List.Forall₂ StandsFor items templates) ↔
      ∀ item ∈ items, ∃ template, item.StandsFor template := by
  induction items with
  | nil => exact iff_of_true ⟨[], .nil⟩ fun _ none => absurd none List.not_mem_nil
  | cons item rest ih =>
    rw [List.forall_mem_cons, ← ih]
    constructor
    · rintro ⟨_, own | ⟨own, others⟩⟩
      exact ⟨⟨_, own⟩, _, others⟩
    · rintro ⟨⟨_, own⟩, _, others⟩
      exact ⟨_, .cons own others⟩

theorem Value.not_exists_other {items : List Value} {templates : List Template}
    (each : List.Forall₂ StandsFor items templates) :
    ¬∃ item ∈ items, ∀ template, ¬item.StandsFor template := by
  rintro ⟨item, listed, other⟩
  obtain ⟨template, stands⟩ := exists_standsFor_iff.mp ⟨templates, each⟩ item listed
  exact other template stands

/-! ## Descriptors in a list -/

namespace Descriptor

/-- The names of the fields, in order. -/
def fieldNames : List String := reader.fields.map Prod.snd

theorem has_of_take {field other : Field} {datum : Datum} {draft next : Draft}
    (different : other ≠ field) (taken : reader.take field datum draft = .ok next) :
    reader.has other next = reader.has other draft := by
  cases field <;>
  · obtain ⟨_, _, same⟩ := bind_ok.mp taken
    cases same
    cases other <;> first | rfl | exact absurd rfl different

/-- A list is decoded like the map that gives its items to the fields in order. It must not be
longer than there are fields. -/
theorem decode_list {items : List Value} {descriptor : Descriptor} :
    decode (Datum.ofValue (.list items)) = .ok descriptor ↔
      items.length ≤ fieldNames.length ∧
        decode (Datum.ofValue (.map (fieldNames.zip items))) = .ok descriptor := by
  have taken : reader.takeItems reader.fields (Datum.ofItems items) reader.start =
      reader.takeEntries (Datum.ofEntries (fieldNames.zip items)) reader.start :=
    reader.takeItems_eq_takeEntries has_of_take (by decide) (by decide) items (by decide)
  have length : (Datum.ofItems items).length = items.length := by
    rw [Datum.ofItems_eq_map, List.length_map]
  change reader.readItems (Datum.ofItems items) = _ ↔
    _ ∧ reader.readEntries (Datum.ofEntries (fieldNames.zip items)) = _
  rw [RecordReader.readItems, RecordReader.readEntries, taken, length]
  -- No field is needed, so the list and the map are finished alike.
  cases reader.takeEntries (Datum.ofEntries (fieldNames.zip items)) reader.start with
  | error reason =>
    constructor
    · intro made
      cases made
    · rintro ⟨_, made⟩
      cases made
  | ok draft =>
    change (if items.length > fieldNames.length then _ else _) = _ ↔ _
    by_cases short : items.length ≤ fieldNames.length
    · rw [if_neg (Nat.not_lt.mpr short)]
      exact (and_iff_right short).symm
    · rw [if_pos (Nat.lt_of_not_le short)]
      simp only [reduceCtorEq, short, false_and]

end Descriptor

/-! ## Entries -/

namespace Entry

/-- Some item stands for no template, but the items are the first fields of a descriptor. -/
structure ListsFields (items : List Value) (descriptor : Descriptor) : Prop where
  other : ∃ item ∈ items, ∀ template, ¬item.StandsFor template
  short : items.length ≤ Descriptor.fieldNames.length
  described : Descriptor.decode (Datum.ofValue (.map (Descriptor.fieldNames.zip items))) =
    .ok descriptor

/-- What entry a value is read as. -/
inductive ReadFrom : Value → Entry → Prop
  | dataset {items : List Value} {templates : List Template}
    (each : List.Forall₂ Value.StandsFor items templates) :
    ReadFrom (.list items) (.dataset templates)
  | tool {fields : Table Value} {descriptor : Descriptor}
    (described : Descriptor.decode (Datum.ofValue (.map fields)) = .ok descriptor) :
    ReadFrom (.map fields) (.tool descriptor)
  | listed {items : List Value} {descriptor : Descriptor}
    (lists : ListsFields items descriptor) : ReadFrom (.list items) (.tool descriptor)

/-- A list is decoded as templates exactly if its items stand for them. -/
theorem decodeTemplates_list {items : List Value} (read : (Value.list items).IsRead)
    {templates : List Template} :
    decodeTemplates (Datum.ofValue (.list items)) = .ok templates ↔
      List.Forall₂ Value.StandsFor items templates := by
  have own : ∀ item ∈ items, item.IsRead := fun _ listed => read.item listed
  change (Datum.ofItems items).mapM Template.decode = _ ↔ _
  rw [mapM_ok, Datum.ofItems_eq_map, List.forall₂_map_left_iff]
  constructor
  · intro each
    refine ((List.forall₂_and_left items templates).mpr ⟨own, each⟩).imp ?_
    rintro item template ⟨read, decoded⟩
    exact (Template.decode_ofValue read).mp decoded
  · intro each
    refine ((List.forall₂_and_left items templates).mpr ⟨own, each⟩).imp ?_
    rintro item template ⟨read, stands⟩
    exact (Template.decode_ofValue read).mpr stands

/-- A list is decoded as a tool exactly if it lists the fields of the descriptor. -/
theorem decode_list_eq_tool {items : List Value} (read : (Value.list items).IsRead)
    {descriptor : Descriptor} :
    decode (Datum.ofValue (.list items)) = .ok (.tool descriptor) ↔
      ListsFields items descriptor := by
  simp only [decode_eq_tool, decodeTemplates_list read, Value.exists_standsFor_iff,
    Descriptor.decode_list, not_forall, not_exists, exists_prop]
  constructor
  · rintro ⟨other, short, described⟩
    exact ⟨other, short, described⟩
  · exact fun lists => ⟨lists.other, lists.short, lists.described⟩

/-- What a value is decoded to can be told from its shape. -/
theorem decode_iff_readFrom {value : Value} (read : value.IsRead) {entry : Entry} :
    decode (Datum.ofValue value) = .ok entry ↔ ReadFrom value entry := by
  constructor
  · intro decoded
    cases entry with
    | dataset templates =>
      cases value with
      | list items => exact .dataset ((decodeTemplates_list read).mp (decode_eq_dataset.mp decoded))
      | _ => cases decode_eq_dataset.mp decoded
    | tool descriptor =>
      cases value with
      | list items => exact .listed ((decode_list_eq_tool read).mp decoded)
      | map fields => exact .tool (decode_map_eq_tool.mp decoded)
      | _ => cases decoded
  · intro stands
    cases stands with
    | dataset each => exact decode_eq_dataset.mpr ((decodeTemplates_list read).mpr each)
    | tool described => exact decode_map_eq_tool.mpr described
    | listed lists => exact (decode_list_eq_tool read).mpr lists

/-- The shape of a value decides which kind of entry it stands for. -/
structure ShapeDecides (value : Value) : Prop where
  /-- A list stands for a dataset with one template for each item. -/
  list : ∀ items, value = .list items → ∀ entry, decode (Datum.ofValue value) = .ok entry →
    ∃ templates, entry = .dataset templates ∧ List.Forall₂ Value.StandsFor items templates
  /-- A map stands for a tool. -/
  map : ∀ fields, value = .map fields → ∀ entry, decode (Datum.ofValue value) = .ok entry →
    ∃ descriptor, entry = .tool descriptor
  /-- A list with an item that stands for no template is refused. -/
  refused : ∀ items, value = .list items →
    (∃ item ∈ items, ∀ template, ¬item.StandsFor template) →
      ∀ entry, decode (Datum.ofValue value) ≠ .ok entry

/-- **The shape of an entry.** A list is read as a dataset if all its items stand for templates, a
map is read as a tool, and besides a list may be a tool whose fields are its items. The shape of a
value decides what it is read as if and only if it is not such a list. -/
theorem shapeDecides_iff {value : Value} (read : value.IsRead) :
    (∀ entry, decode (Datum.ofValue value) = .ok entry ↔ ReadFrom value entry) ∧
      (ShapeDecides value ↔
        ∀ items, value = .list items → ∀ descriptor, ¬ListsFields items descriptor) := by
  have readFrom : ∀ entry, decode (Datum.ofValue value) = .ok entry ↔ ReadFrom value entry :=
    fun _ => decode_iff_readFrom read
  refine ⟨readFrom, ?_⟩
  constructor
  · rintro decides items rfl descriptor lists
    exact decides.refused items rfl lists.other _ ((readFrom _).mpr (.listed lists))
  · intro never
    have list : ∀ items, value = .list items → ∀ entry, decode (Datum.ofValue value) = .ok entry →
        ∃ templates, entry = .dataset templates ∧
          List.Forall₂ Value.StandsFor items templates := by
      rintro items rfl entry decoded
      cases (readFrom entry).mp decoded with
      | dataset each => exact ⟨_, rfl, each⟩
      | listed lists => exact absurd lists (never items rfl _)
    constructor
    case list => exact list
    case map =>
      rintro fields rfl entry decoded
      cases (readFrom entry).mp decoded with
      | tool described => exact ⟨_, rfl⟩
    case refused =>
      intro items same other entry decoded
      obtain ⟨templates, _, each⟩ := list items same entry decoded
      exact Value.not_exists_other each other

/-- The templates that load a file and leave out a part of it, the second without configuration. -/
def loading : List Value :=
  [.map [("dataresource", .map [("downloadUrl", .text "raw.csv")])], .map [("filter", .null)]]

/-- Each item stands for a template, so that the shape decides. -/
theorem shapeDecides_loading :
    (Value.list loading).IsRead ∧ ShapeDecides (.list loading) ∧
      decode (Datum.ofValue (.list loading)) =
        .ok (.dataset [⟨"dataresource", [("downloadUrl", .text "raw.csv")]⟩, ⟨"filter", []⟩]) := by
  have read : (Value.list loading).IsRead := by
    have url : ∀ entry ∈ [("downloadUrl", Value.text "raw.csv")], entry.2.IsRead :=
      List.forall_mem_singleton.mpr ⟨.text _, rfl⟩
    have file := Value.IsRead.map url (List.pairwise_singleton ..)
    have none : Value.null.IsRead := ⟨.null, rfl⟩
    refine .list (List.forall_mem_cons.mpr ⟨?_, List.forall_mem_singleton.mpr ?_⟩)
    · exact .map (List.forall_mem_singleton.mpr file) (List.pairwise_singleton ..)
    · exact .map (List.forall_mem_singleton.mpr none) (List.pairwise_singleton ..)
  have each : List.Forall₂ Value.StandsFor loading
      [⟨"dataresource", [("downloadUrl", .text "raw.csv")]⟩, ⟨"filter", []⟩] :=
    .cons (.configured rfl) (.cons (.bare rfl) .nil)
  have ⟨readFrom, decides⟩ := shapeDecides_iff read
  refine ⟨read, decides.mpr ?_, (readFrom _).mpr (.dataset each)⟩
  rintro items same descriptor lists
  cases same
  exact Value.not_exists_other each lists.other

/-- A template whose configuration is a list makes its list a tool, which has the strategy as an
input. -/
theorem exists_listed_tool :
    (∀ template, ¬(Value.map [("dataresource", .list [])]).StandsFor template) ∧
      decode (Datum.ofValue (.list [.map [("dataresource", .list [])]])) =
        .ok (.tool { input := [("dataresource", [])] }) ∧
      ¬ShapeDecides (.list [.map [("dataresource", .list [])]]) := by
  have decoded : decode (Datum.ofValue (.list [.map [("dataresource", .list [])]])) =
      .ok (.tool { input := [("dataresource", [])] }) := rfl
  refine ⟨?_, decoded, ?_⟩
  · intro template stands
    cases stands
  · intro decides
    obtain ⟨templates, same, _⟩ := decides.list _ rfl _ decoded
    cases same

end Entry

end WorkflowChain
