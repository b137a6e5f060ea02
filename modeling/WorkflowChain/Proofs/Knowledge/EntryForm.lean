import WorkflowChain.Proofs.Knowledge.DescriptorForm

/-! # The form of store entries

An entry has no tag in a document: it is a dataset if it can be read as a list of templates, and
else a tool. The form of a dataset is a list, also if it has no templates, and that of a tool is a
map, also if it has no fields. So a dataset is decoded to a dataset and a tool to a tool, and what
they hold is the same, but for the order of the artifacts of a tool (`Entry.decode_form`).
-/

namespace WorkflowChain

/-- A descriptor is the same as another, but for the order of the artifacts on each side. -/
structure Descriptor.Reorders (descriptor other : Descriptor) : Prop where
  fields : descriptor = { other with input := descriptor.input, output := descriptor.output }
  perm : ∀ direction, (descriptor.bindings direction).Perm (other.bindings direction)

/-- Key order changes the order of artifacts in a descriptor, and nothing else. -/
theorem Descriptor.reorders_inKeyOrder {descriptor : Descriptor}
    (wellFormed : descriptor.WellFormed) : descriptor.inKeyOrder.Reorders descriptor := by
  constructor
  case fields => rfl
  case perm =>
    intro direction
    cases direction with
    | input => exact Table.perm_sorted (wellFormed.distinct .input)
    | output => exact Table.perm_sorted (wellFormed.distinct .output)

namespace Entry

/-- A dataset or a tool whose templates are well-formed. -/
inductive WellFormed : Entry → Prop
  | dataset {templates : List Template} (each : ∀ template ∈ templates, template.WellFormed) :
    WellFormed (.dataset templates)
  | tool {descriptor : Descriptor} (wellFormed : descriptor.WellFormed) :
    WellFormed (.tool descriptor)

/-- Entries of one kind are the same, but for the order of artifacts. -/
inductive Reorders : Entry → Entry → Prop
  | dataset (templates : List Template) : Reorders (.dataset templates) (.dataset templates)
  | tool {descriptor other : Descriptor} (same : descriptor.Reorders other) :
    Reorders (.tool descriptor) (.tool other)

/-- An entry is decoded as a dataset exactly if its value is decoded as a list of templates. -/
theorem decode_eq_dataset {value : Value} {templates : List Template} :
    decode (Datum.ofValue value) = .ok (.dataset templates) ↔
      decodeTemplates (Datum.ofValue value) = .ok templates := by
  rw [decode, Datum.resolve_ofValue]
  dsimp only
  cases decodeTemplates (Datum.ofValue value) with
  | ok own => simp only [Except.ok.injEq, dataset.injEq]
  | error reason => cases Descriptor.decode (Datum.ofValue value) <;> simp

/-- A descriptor is decoded only from what is no list of templates. -/
theorem decode_eq_tool {value : Value} {descriptor : Descriptor} :
    decode (Datum.ofValue value) = .ok (.tool descriptor) ↔
      (¬∃ templates, decodeTemplates (Datum.ofValue value) = .ok templates) ∧
        Descriptor.decode (Datum.ofValue value) = .ok descriptor := by
  rw [decode, Datum.resolve_ofValue]
  dsimp only
  cases decodeTemplates (Datum.ofValue value) with
  | ok own => simp
  | error reason => cases Descriptor.decode (Datum.ofValue value) <;> simp

/-- A map is decoded as a tool exactly if it is decoded as a descriptor, since it is no list. -/
theorem decode_map_eq_tool {entries : Table Value} {descriptor : Descriptor} :
    decode (Datum.ofValue (.map entries)) = .ok (.tool descriptor) ↔
      Descriptor.decode (Datum.ofValue (.map entries)) = .ok descriptor := by
  have noList : ¬∃ templates, decodeTemplates (Datum.ofValue (.map entries)) = .ok templates := by
    rintro ⟨templates, made⟩
    cases made
  exact decode_eq_tool.trans (and_iff_right noList)

theorem decode_dataset {templates : List Template}
    (each : ∀ template ∈ templates, template.WellFormed) :
    decode (Datum.ofValue (encode (.dataset templates)).inKeyOrder) = .ok (.dataset templates) := by
  have ordered := (Template.isRead_encodeTemplates each).ordered
  rw [encode, ordered]
  exact decode_eq_dataset.mpr (Template.decode_encodeTemplates each)

theorem decode_tool {descriptor : Descriptor} (wellFormed : descriptor.WellFormed) :
    decode (Datum.ofValue (encode (.tool descriptor)).inKeyOrder) =
      .ok (.tool descriptor.inKeyOrder) := by
  have decoded := Descriptor.decode_inKeyOrder_encode wellFormed
  have form := Descriptor.inKeyOrder_encode wellFormed
  rw [encode, form, decode_map_eq_tool, ← form, decoded]

/-- **Descriptors and entries are decoded to what was written.** With known strategies, the form of a
descriptor is decoded to the same descriptor, that of a dataset to the same dataset and that of a
tool to the same tool, but for the order of artifacts. -/
theorem decode_form :
    (∀ descriptor : Descriptor, descriptor.WellFormed → ∃ back,
      Descriptor.decode (Datum.ofValue descriptor.encode.inKeyOrder) = .ok back ∧
        back.Reorders descriptor) ∧
    ∀ entry : Entry, entry.WellFormed → ∃ back,
      decode (Datum.ofValue entry.encode.inKeyOrder) = .ok back ∧ back.Reorders entry := by
  constructor
  · intro descriptor wellFormed
    exact ⟨_, Descriptor.decode_inKeyOrder_encode wellFormed,
      Descriptor.reorders_inKeyOrder wellFormed⟩
  · intro entry wellFormed
    cases wellFormed with
    | dataset each => exact ⟨_, decode_dataset each, .dataset _⟩
    | tool wellFormed =>
      exact ⟨_, decode_tool wellFormed, .tool (Descriptor.reorders_inKeyOrder wellFormed)⟩

/-- The templates that load a sample and cut it. -/
def sampleTemplates : List Template :=
  [⟨"dataresource", [("configuration", .map [("delimiter", .text ";"), ("skip", .int (-1))]),
      ("downloadUrl", .text "sample.csv")]⟩,
    ⟨"filter", []⟩]

theorem wellFormed_sampleTemplates : ∀ template ∈ sampleTemplates, template.WellFormed := by
  have nested : (Value.map [("delimiter", .text ";"), ("skip", .int (-1))]).IsRead := by
    refine .map (List.forall_mem_cons.mpr ⟨⟨.text _, rfl⟩, ?_⟩) (by decide)
    exact List.forall_mem_singleton.mpr ⟨.int _, rfl⟩
  refine List.forall_mem_cons.mpr ⟨⟨rfl, .map ?_ (by decide)⟩, ?_⟩
  · exact List.forall_mem_cons.mpr ⟨nested, List.forall_mem_singleton.mpr ⟨.text _, rfl⟩⟩
  · exact List.forall_mem_singleton.mpr ⟨rfl, .map (fun _ none => nomatch none) .nil⟩

/-- A tool whose inputs are not in key order, one of them without templates. -/
def grinder : Descriptor where
  input := [("sample", sampleTemplates), ("abrasive", [])]
  files := [⟨"run.sh", "file:/opt/run.sh"⟩]
  executor := some ""

theorem wellFormed_grinder : grinder.WellFormed := by
  constructor
  case templates =>
    intro direction
    cases direction with
    | input =>
      exact List.forall_mem_cons.mpr ⟨wellFormed_sampleTemplates,
        List.forall_mem_singleton.mpr fun _ none => nomatch none⟩
    | output => exact fun _ none => nomatch none
  case distinct => exact fun direction => by cases direction <;> decide

/-- The empty dataset and the tool without fields are told apart. -/
theorem decode_form_grinder :
    (∃ back, Descriptor.decode (Datum.ofValue grinder.encode.inKeyOrder) = .ok back ∧
      back.Reorders grinder) ∧
    (∃ back, decode (Datum.ofValue (encode (.tool grinder)).inKeyOrder) = .ok back ∧
      back.Reorders (.tool grinder)) ∧
    decode (Datum.ofValue (encode (.dataset [])).inKeyOrder) = .ok (.dataset []) ∧
    ∃ back, decode (Datum.ofValue (encode (.tool {})).inKeyOrder) = .ok back ∧
      back.Reorders (.tool {}) := by
  obtain ⟨descriptors, entries⟩ := decode_form
  have bare : Descriptor.WellFormed {} := by
    constructor
    case templates => exact fun direction => by cases direction <;> exact fun _ none => nomatch none
    case distinct => exact fun direction => by cases direction <;> decide
  obtain ⟨empty, decoded, same⟩ := entries (.dataset []) (.dataset fun _ none => nomatch none)
  cases same
  exact ⟨descriptors grinder wellFormed_grinder, entries _ (.tool wellFormed_grinder), decoded,
    entries _ (.tool bare)⟩

end Entry

end WorkflowChain
