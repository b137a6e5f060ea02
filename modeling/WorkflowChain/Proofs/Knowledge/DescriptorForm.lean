import WorkflowChain.Knowledge.Entry
import WorkflowChain.Proofs.Data.Fields

/-! # The form of descriptors

A template is decoded from the values that stand for it and from no other
(`Template.decode_ofValue`), and its own form is one of them.

A descriptor that was written as a value is decoded to the same descriptor, except that its
artifacts come in the order of their keys (`Descriptor.decode_inKeyOrder_encode`). Values with keys
in order are all that documents hold, whatever the order was in which the artifacts were written.
-/

namespace WorkflowChain

/-! ## Templates -/

/-- A value stands for a template: it is a map of one known strategy to its configuration, which
may be null if it is empty. -/
inductive Value.StandsFor : Value → Template → Prop
  | configured {strategy : String} {config : Configuration}
    (known : (StageKind.ofStrategy? strategy).isSome = true) :
    StandsFor (.map [(strategy, .map config)]) ⟨strategy, config⟩
  | bare {strategy : String} (known : (StageKind.ofStrategy? strategy).isSome = true) :
    StandsFor (.map [(strategy, .null)]) ⟨strategy, []⟩

namespace Template

/-- A template with a known strategy, and with a configuration as configurations are after
reading. -/
structure WellFormed (template : Template) : Prop where
  known : template.kind?.isSome = true
  config : (Value.map template.config).IsRead

variable {template : Template} {templates : List Template}

/-- A map is decoded to a template exactly if it stands for the template. -/
theorem ofEntries_ok {entries : Table Value} :
    ofEntries entries = .ok template ↔ (Value.map entries).StandsFor template := by
  constructor
  · intro made
    unfold ofEntries at made
    split at made
    next strategy configuration =>
      split at made
      · cases made
      next known =>
        have known : (StageKind.ofStrategy? strategy).isSome = true := by
          rwa [Bool.not_eq_true, ← Option.not_isSome, Bool.not_eq_false'] at known
        split at made <;> cases made
        · exact .configured known
        · exact .bare known
    · cases made
  · rintro (known | known) <;>
    · rw [ofEntries, ← Option.not_isSome, known]
      rfl

/-- A value that was read is decoded to a template exactly if it stands for the template. -/
theorem decode_ofValue {value : Value} (read : value.IsRead) :
    decode (Datum.ofValue value) = .ok template ↔ value.StandsFor template := by
  cases value with
  | map entries =>
    rw [decode, Datum.decodeConfiguration_ofValue read]
    exact ofEntries_ok
  | _ =>
    constructor
    · intro decoded
      cases decoded
    · intro stands
      cases stands

theorem WellFormed.isRead_encode (wellFormed : template.WellFormed) : template.encode.IsRead :=
  .map (List.forall_mem_singleton.mpr wellFormed.config) (List.pairwise_singleton ..)

/-- A template is decoded to itself. -/
theorem decode_encode (wellFormed : template.WellFormed) :
    decode (Datum.ofValue template.encode) = .ok template :=
  (decode_ofValue wellFormed.isRead_encode).mpr (.configured wellFormed.known)

/-- All templates that were decoded are so. -/
theorem wellFormed_of_decode {datum : Datum} (decoded : decode datum = .ok template) :
    template.WellFormed := by
  obtain ⟨entries, read, made⟩ := bind_ok.mp decoded
  have values := Datum.isRead_of_decodeConfiguration read
  cases ofEntries_ok.mp made with
  | configured known => exact ⟨known, values _ List.mem_cons_self⟩
  | bare known => exact ⟨known, .map (fun _ none => nomatch none) .nil⟩

theorem isRead_encodeTemplates (each : ∀ template ∈ templates, template.WellFormed) :
    (Entry.encodeTemplates templates).IsRead :=
  .list (List.forall_mem_map.mpr fun template listed => (each template listed).isRead_encode)

/-- A list of templates is decoded to itself, in its order. -/
theorem decode_encodeTemplates (each : ∀ template ∈ templates, template.WellFormed) :
    Entry.decodeTemplates (Datum.ofValue (Entry.encodeTemplates templates)) = .ok templates :=
  Datum.decodeList_map fun template listed => decode_encode (each template listed)

end Template

/-! ## Files -/

namespace StaticFile

theorem inKeyOrder_encode (file : StaticFile) :
    file.encode.inKeyOrder =
      .map [("source_uri", .text file.sourceUri), ("target_file", .text file.targetFile)] := by
  simp only [encode, Value.inKeyOrder, Value.inKeyOrderEntries, Table.sorted, List.foldl_cons,
    List.foldl_nil, Table.place, String.reduceLT, ↓reduceIte]

theorem isFinite_encode (file : StaticFile) : file.encode.IsFinite :=
  .map (List.forall_mem_cons.mpr ⟨.text _, List.forall_mem_singleton.mpr (.text _)⟩)

/-- A static file is decoded to itself. -/
theorem decode_inKeyOrder_encode (file : StaticFile) :
    reader.read (Datum.ofValue file.encode.inKeyOrder) = .ok file := by
  rw [inKeyOrder_encode]
  rfl

end StaticFile

namespace Descriptor

/-! ## The bindings of one side -/

/-- The bindings of one side as a value. -/
def encodeSide (bindings : Bindings) : Value :=
  .map (bindings.map (Prod.map id Entry.encodeTemplates))

section Side

variable {bindings : Bindings}
  (each : ∀ binding ∈ bindings, ∀ template ∈ binding.2, template.WellFormed)

include each

theorem isFinite_encodeSide : (encodeSide bindings).IsFinite :=
  .map (List.forall_mem_map.mpr fun binding listed =>
    (Template.isRead_encodeTemplates (each binding listed)).finite)

/-- The artifacts of a side are brought into the order of their keys, and their templates stay as
they are. -/
theorem inKeyOrder_encodeSide :
    (encodeSide bindings).inKeyOrder = encodeSide (Table.sorted bindings) := by
  have ordered : ∀ binding ∈ bindings,
      (Prod.map id Value.inKeyOrder ∘ Prod.map id Entry.encodeTemplates) binding =
        Prod.map id Entry.encodeTemplates binding :=
    fun binding listed =>
      Prod.ext rfl (Template.isRead_encodeTemplates (each binding listed)).ordered
  rw [encodeSide, Value.inKeyOrder, Value.inKeyOrderEntries_eq_map, List.map_map,
    List.map_congr_left ordered, Table.sorted_map]
  rfl

/-- The bindings of a side are decoded to themselves in key order. -/
theorem decodeBindings_encodeSide_sorted :
    decodeBindings (Datum.ofValue (encodeSide (Table.sorted bindings))) =
      .ok (Table.sorted bindings) := by
  refine Datum.decodeTable_map (Table.ascending_sorted bindings).nodup fun binding listed => ?_
  exact Template.decode_encodeTemplates (each binding (Table.mem_of_mem_sorted listed))

end Side

/-! ## Fields -/

/-- A list as the content of a field that is left out when it is empty. -/
def content {α : Type} (items : List α) : Option (List α) :=
  if items.isEmpty then none else some items

/-- If a list is written at all, then it is written as it is. -/
theorem eq_of_mem_content {α : Type} {items own : List α} (there : own ∈ content items) :
    own = items := by
  rw [content] at there
  split at there <;> cases there
  rfl

/-- A list that is left out because it is empty comes back as the empty list. -/
theorem getD_map_content {α β : Type} {change : List α → List β} (empty : change [] = [])
    (items : List α) : ((content items).map change).getD [] = change items := by
  rw [content]
  split
  next isEmpty =>
    rw [List.isEmpty_iff.mp isEmpty, empty]
    rfl
  · rfl

/-- A descriptor with well-formed templates, which has each artifact of a side once. -/
structure WellFormed (descriptor : Descriptor) : Prop where
  templates : ∀ direction, ∀ binding ∈ descriptor.bindings direction, ∀ template ∈ binding.2,
    template.WellFormed
  distinct : ∀ direction, (Table.keys (descriptor.bindings direction)).Nodup

/-- The descriptor with its artifacts in the order of their keys. -/
def inKeyOrder (descriptor : Descriptor) : Descriptor :=
  { descriptor with
    input := Table.sorted descriptor.input
    output := Table.sorted descriptor.output }

variable (descriptor : Descriptor)

/-- The values of the fields, as far as they are there. -/
def fields : Table (Option Value) := [
  ("input", (content descriptor.input).map encodeSide),
  ("output", (content descriptor.output).map encodeSide),
  ("files", (content descriptor.files).map fun files => .list (files.map StaticFile.encode)),
  ("command", descriptor.command.map .text),
  ("executor", descriptor.executor.map .text),
  ("installCommand", descriptor.installCommand.map .text),
  ("datanodeType", descriptor.datanodeType.map .text)]

/-- A descriptor is written as those of its fields that are present. -/
theorem encode_eq_present : descriptor.encode = .map (Table.present descriptor.fields) := by
  have sides : ∀ key bindings, encodeBindings key bindings =
      (((content bindings).map encodeSide).map (Prod.mk key)).toList := by
    intro key bindings
    rw [encodeBindings, content]
    split <;> rfl
  have files : (if descriptor.files.isEmpty then []
      else [("files", Value.list (descriptor.files.map StaticFile.encode))]) =
        (((content descriptor.files).map fun files => .list (files.map StaticFile.encode)).map
          (Prod.mk "files")).toList := by
    rw [content]
    split <;> rfl
  have texts : ∀ key text, encodeText key text =
      ((text.map Value.text).map (Prod.mk key)).toList := by
    intro key text
    rw [encodeText, Option.map_map]
    rfl
  simp only [encode, fields, Table.present_cons, Table.present_nil, sides, files, texts,
    List.append_assoc, List.append_nil]

/-- The values of the fields in key order. -/
def orderedFields : Table (Option Value) := [
  ("command", descriptor.command.map .text),
  ("datanodeType", descriptor.datanodeType.map .text),
  ("executor", descriptor.executor.map .text),
  ("files", (content descriptor.files).map fun files =>
    .list (files.map fun file => file.encode.inKeyOrder)),
  ("input", (content descriptor.input).map (encodeSide ∘ Table.sorted)),
  ("installCommand", descriptor.installCommand.map .text),
  ("output", (content descriptor.output).map (encodeSide ∘ Table.sorted))]

variable {descriptor}

section Form

variable (wellFormed : descriptor.WellFormed)

include wellFormed

/-- No number in a descriptor is infinite, so that its value can be written and read. -/
theorem isFinite_encode : descriptor.encode.IsFinite := by
  have sides : ∀ direction, ∀ value ∈ (content (descriptor.bindings direction)).map encodeSide,
      value.IsFinite := by
    intro direction value there
    obtain ⟨bindings, own, rfl⟩ := Option.map_eq_some_iff.mp there
    rw [eq_of_mem_content own]
    exact isFinite_encodeSide (wellFormed.templates direction)
  have files : ∀ value ∈ (content descriptor.files).map fun files =>
      Value.list (files.map StaticFile.encode), value.IsFinite := by
    intro value there
    obtain ⟨files, _, rfl⟩ := Option.map_eq_some_iff.mp there
    exact .list (List.forall_mem_map.mpr fun file _ => file.isFinite_encode)
  have texts : ∀ text : Option String, ∀ value ∈ text.map Value.text, value.IsFinite := by
    intro text value there
    obtain ⟨own, _, rfl⟩ := Option.map_eq_some_iff.mp there
    exact .text own
  have values : ∀ field ∈ descriptor.fields, ∀ value ∈ field.2, value.IsFinite := by
    simp only [fields, List.forall_mem_cons]
    exact ⟨sides .input, sides .output, files, texts _, texts _, texts _, texts _,
      fun _ none => nomatch none⟩
  rw [encode_eq_present]
  exact .map fun entry member => values _ (Table.mem_present.mp member) _ rfl

theorem inKeyOrder_encode :
    descriptor.encode.inKeyOrder = .map (Table.present descriptor.orderedFields) := by
  have distinct : descriptor.fields.keys.Nodup := by
    change ["input", "output", "files", "command", "executor", "installCommand",
      "datanodeType"].Nodup
    decide
  have sides : ∀ direction,
      ((content (descriptor.bindings direction)).map encodeSide).map Value.inKeyOrder =
        (content (descriptor.bindings direction)).map (encodeSide ∘ Table.sorted) := by
    intro direction
    rw [Option.map_map]
    refine Option.map_congr fun bindings there => ?_
    rw [eq_of_mem_content there]
    exact inKeyOrder_encodeSide (wellFormed.templates direction)
  have values : descriptor.fields.map (Prod.map id (Option.map Value.inKeyOrder)) = [
      ("input", (content descriptor.input).map (encodeSide ∘ Table.sorted)),
      ("output", (content descriptor.output).map (encodeSide ∘ Table.sorted)),
      ("files", (content descriptor.files).map fun files =>
        .list (files.map fun file => file.encode.inKeyOrder)),
      ("command", descriptor.command.map .text),
      ("executor", descriptor.executor.map .text),
      ("installCommand", descriptor.installCommand.map .text),
      ("datanodeType", descriptor.datanodeType.map .text)] := by
    have input : ((content descriptor.input).map encodeSide).map _ = _ := sides .input
    have output : ((content descriptor.output).map encodeSide).map _ = _ := sides .output
    simp only [fields, List.map_cons, List.map_nil, Prod.map_apply, id, input, output]
    simp only [Option.map_map, Function.comp_def, Value.inKeyOrder, Value.inKeyOrderItems_eq_map,
      List.map_map]
    rfl
  rw [encode_eq_present, Value.inKeyOrder_present distinct, values]
  congr 2
  simp only [Table.sorted, List.foldl_cons, List.foldl_nil, Table.place, String.reduceLT,
    String.reduceEq, ↓reduceIte, orderedFields]

/-- The fields are taken in key order, and each is added to those that were read before. -/
theorem takeEntries_orderedFields :
    reader.takeEntries (Datum.ofEntries (Table.present descriptor.orderedFields)) reader.start =
      .ok { input := (content descriptor.input).map Table.sorted
            output := (content descriptor.output).map Table.sorted
            files := (content descriptor.files).map id
            command := descriptor.command.map some
            executor := descriptor.executor.map some
            installCommand := descriptor.installCommand.map some
            datanodeType := descriptor.datanodeType.map some } := by
  let later (count : Nat) : List (Datum × Datum) :=
    Datum.ofEntries (Table.present (descriptor.orderedFields.drop count))
  let command : Draft := { command := descriptor.command.map some }
  let datanodeType := { command with datanodeType := descriptor.datanodeType.map some }
  let executor := { datanodeType with executor := descriptor.executor.map some }
  let files := { executor with files := (content descriptor.files).map id }
  let input := { files with input := (content descriptor.input).map Table.sorted }
  let install := { input with installCommand := descriptor.installCommand.map some }
  have sides : ∀ direction, ∀ bindings ∈ content (descriptor.bindings direction),
      decodeBindings (Datum.ofValue (encodeSide (Table.sorted bindings))) =
        .ok (Table.sorted bindings) := by
    intro direction bindings there
    rw [eq_of_mem_content there]
    exact decodeBindings_encodeSide_sorted (wellFormed.templates direction)
  calc reader.takeEntries (later 0) {}
    _ = reader.takeEntries (later 1) command :=
      reader.takeEntries_present_cons .command some (fun text => { command := text })
        rfl rfl rfl fun _ _ => rfl
    _ = reader.takeEntries (later 2) datanodeType :=
      reader.takeEntries_present_cons .datanodeType some
        (fun text => { command with datanodeType := text }) rfl rfl rfl fun _ _ => rfl
    _ = reader.takeEntries (later 3) executor :=
      reader.takeEntries_present_cons .executor some
        (fun text => { datanodeType with executor := text }) rfl rfl rfl fun _ _ => rfl
    _ = reader.takeEntries (later 4) files := by
      refine reader.takeEntries_present_cons .files id (fun files => { executor with files })
        rfl rfl rfl fun own _ => bind_ok.mpr ⟨own, ?_, rfl⟩
      exact Datum.decodeList_map fun file _ => file.decode_inKeyOrder_encode
    _ = reader.takeEntries (later 5) input :=
      reader.takeEntries_present_cons .input Table.sorted (fun input => { files with input })
        rfl rfl rfl fun own there => bind_ok.mpr ⟨_, sides .input own there, rfl⟩
    _ = reader.takeEntries (later 6) install :=
      reader.takeEntries_present_cons .installCommand some
        (fun text => { input with installCommand := text }) rfl rfl rfl fun _ _ => rfl
    _ = .ok { install with output := (content descriptor.output).map Table.sorted } :=
      reader.takeEntries_present_cons .output Table.sorted (fun output => { install with output })
        rfl rfl rfl fun own there => bind_ok.mpr ⟨_, sides .output own there, rfl⟩

/-- **The form of a descriptor.** The value of a descriptor, with its keys in order, is decoded to
the descriptor with its artifacts in order. -/
theorem decode_inKeyOrder_encode :
    decode (Datum.ofValue descriptor.encode.inKeyOrder) = .ok descriptor.inKeyOrder := by
  have sides : ∀ bindings : Bindings, ((content bindings).map Table.sorted).getD [] =
      Table.sorted bindings := getD_map_content rfl
  have files : ((content descriptor.files).map id).getD [] = descriptor.files :=
    getD_map_content rfl _
  have texts : ∀ text : Option String, (text.map some).getD none = text := by
    intro text
    cases text <;> rfl
  rw [inKeyOrder_encode wellFormed]
  refine Eq.trans (bind_ok.mpr ⟨_, takeEntries_orderedFields wellFormed, rfl⟩) ?_
  simp only [sides, files, texts]
  rfl

end Form

end Descriptor

end WorkflowChain
