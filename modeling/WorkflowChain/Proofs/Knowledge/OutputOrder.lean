import WorkflowChain.Proofs.Knowledge.Acceptance
import WorkflowChain.Proofs.Knowledge.DescriptorForm
import WorkflowChain.Proofs.Knowledge.Vocabulary

/-! # The order of stored outputs

The outputs of a tool are paired one after the other with the files that it writes, so their order
counts. A descriptor keeps the order in which they are declared, but a document holds it as a value
with its keys in order. What is stored are the same outputs in ascending order of their identifiers
(`Document.storesForm_of_wellFormed`). The files are listed as declared if the declared order was
this one, and with different names of files only then.
-/

namespace WorkflowChain

theorem eq_of_perm_of_map_eq {α β : Type} {image : α → β} {items others : List α}
    (perm : items.Perm others) (distinct : (others.map image).Nodup)
    (same : items.map image = others.map image) : items = others := by
  refine List.ext_getElem perm.length_eq fun index here there => ?_
  have images : image items[index] = image others[index] := by
    have mapped := List.getElem_of_eq same ((List.length_map image).symm ▸ here)
    rwa [List.getElem_map, List.getElem_map] at mapped
  exact List.inj_on_of_nodup_map distinct (perm.mem_iff.mp (List.getElem_mem here))
    (List.getElem_mem there) images

namespace Descriptor

/-- The file that the tool writes for an output, as its first template says. -/
def outputFile? (binding : String × List Template) : Option String :=
  binding.2.head?.bind Template.downloadUrl?

variable {descriptor stored : Descriptor}

/-- If each output has a file, the names of the files are listed in the order of the outputs. -/
theorem outputFileNames_eq
    (named : ∀ binding ∈ descriptor.output, (outputFile? binding).isSome = true) (tool : String) :
    descriptor.outputFileNames tool =
      .ok (descriptor.output.map fun binding => (outputFile? binding).getD "") := by
  refine mapM_eq_ok_map fun binding listed => ?_
  obtain ⟨url, found⟩ := Option.isSome_iff_exists.mp (named binding listed)
  rw [found]
  unfold outputFile? at found
  dsimp only
  rw [found]
  rfl

/-- The outputs of a descriptor were stored in ascending order. -/
structure StoresOutputs (descriptor stored : Descriptor) : Prop where
  perm : stored.output.Perm descriptor.output
  ascending : stored.output.Ascending
  /-- The names of files are listed in the same order as the outputs. -/
  files : ∀ tool, ∃ declared listed, descriptor.outputFileNames tool = .ok declared ∧
    stored.outputFileNames tool = .ok listed ∧ listed.Perm declared ∧
    (descriptor.output.Ascending → listed = declared) ∧
    (declared.Nodup → listed = declared → descriptor.output.Ascending)

/-- Outputs that are stored in key order are the ones that were documented. -/
theorem storesOutputs_of_output_eq (distinct : descriptor.output.keys.Nodup)
    (named : ∀ binding ∈ descriptor.output, (outputFile? binding).isSome = true)
    (same : stored.output = Table.sorted descriptor.output) : descriptor.StoresOutputs stored := by
  have perm : stored.output.Perm descriptor.output := same ▸ Table.perm_sorted distinct
  have ascending : stored.output.Ascending := same ▸ Table.ascending_sorted _
  refine ⟨perm, ascending, fun tool => ⟨_, _, outputFileNames_eq named tool,
    outputFileNames_eq (fun binding listed => named binding (perm.mem_iff.mp listed)) tool,
    perm.map _, ?_, ?_⟩⟩
  · intro declared
    rw [same, declared.sorted_eq_self]
  · intro files listed
    rw [← eq_of_perm_of_map_eq perm files listed]
    exact ascending

end Descriptor

namespace Document

variable {descriptor : Descriptor}

/-- Full IRIs stay as they are. -/
theorem expandBindings_of_isFull (document : Document) {bindings : Bindings}
    (distinct : bindings.keys.Nodup) (full : ∀ key ∈ bindings.keys, Iri.IsFull key) :
    document.expandBindings bindings = bindings := by
  have same : ∀ binding ∈ bindings, (document.expand binding.1, binding.2) = binding :=
    fun binding listed => Prod.ext (Iri.expand_of_isFull (full _ (List.mem_map_of_mem listed)) _) rfl
  unfold expandBindings
  dsimp only
  rw [List.map_congr_left same, List.map_id', Table.ofEntries_eq_self distinct]

/-- A document with nothing but the form of a descriptor is accepted. -/
theorem exists_populate_tool (wellFormed : descriptor.WellFormed) (namespaces : Table String)
    (key : String) (store : Store) :
    ∃ after, populate { namespaces, tools := [(key, descriptor.encode.inKeyOrder)] } store =
      .ok (after, 1) := by
  let document : Document := { namespaces, tools := [(key, descriptor.encode.inKeyOrder)] }
  have fresh : document.expand key ∉ ([] : List Resource).map Resource.identifier :=
    List.not_mem_nil
  have added := addTool_eq fresh ⟨_, Descriptor.inKeyOrder_encode wellFormed⟩
    (Descriptor.decode_inKeyOrder_encode wellFormed)
  have decoded : document.resources = .ok _ :=
    bind_ok.mpr ⟨[], rfl, bind_ok.mpr ⟨_, bind_ok.mpr ⟨_, added, rfl⟩, rfl⟩⟩
  exact ⟨_, populate_eq decoded store⟩

/-- What the documents do that have the form of a descriptor among their tools. -/
structure StoresForm (descriptor : Descriptor) (form : Value) : Prop where
  /-- The form is no reason to refuse a document. -/
  accepted : ∀ namespaces key store, ∃ after,
    populate { namespaces, tools := [(key, form)] } store = .ok (after, 1)
  outputs : ∀ (document : Document) store after count key,
    document.populate store = .ok (after, count) → (key, form) ∈ document.tools →
      ∃ stored, after.lookup? (document.expand key) = some (.tool stored) ∧
        descriptor.StoresOutputs stored

/-- **The order of outputs.** Read as a value, the form of a descriptor can be stored as a tool. In
every store that was populated with it, its outputs are in ascending order, whatever order they were
declared in. -/
theorem storesForm_of_wellFormed (wellFormed : descriptor.WellFormed)
    (named : ∀ binding ∈ descriptor.output, (Descriptor.outputFile? binding).isSome = true)
    (full : ∀ key ∈ descriptor.output.keys, Iri.IsFull key) :
    ∃ form, (Datum.ofValue descriptor.encode).toValue? = some form ∧
      StoresForm descriptor form := by
  refine ⟨_, (Descriptor.isFinite_encode wellFormed).toValue?_ofValue,
    exists_populate_tool wellFormed, ?_⟩
  intro document store after count key populated listed
  obtain ⟨decoded, described, found⟩ := tool_of_populate populated listed
  rw [Descriptor.decode_inKeyOrder_encode wellFormed] at described
  cases described
  have perm := Table.perm_sorted (wellFormed.distinct .output)
  have distinct : (Table.sorted descriptor.output).keys.Nodup :=
    (Table.ascending_sorted _).nodup
  refine ⟨_, found, Descriptor.storesOutputs_of_output_eq (wellFormed.distinct .output) named ?_⟩
  refine document.expandBindings_of_isFull distinct fun key member => ?_
  exact full key ((perm.map Prod.fst).mem_iff.mp member)

/-- A tool that declares its result before its log. -/
def converter : Descriptor where
  output := [
    ("http://example.org/result", [⟨"dataresource", [("downloadUrl", .text "result.csv")]⟩]),
    ("http://example.org/log", [⟨"dataresource", [("downloadUrl", .text "log.txt")]⟩])]
  command := some "convert.sh"

theorem wellFormed_converter : converter.WellFormed := by
  have file : ∀ url, Template.WellFormed ⟨"dataresource", [("downloadUrl", .text url)]⟩ := by
    intro url
    refine ⟨rfl, .map (List.forall_mem_singleton.mpr ⟨.text url, rfl⟩) ?_⟩
    exact List.pairwise_singleton ..
  constructor
  case templates =>
    intro direction
    cases direction with
    | input => exact fun _ none => nomatch none
    | output =>
      refine List.forall_mem_cons.mpr ⟨?_, List.forall_mem_singleton.mpr ?_⟩
      · exact List.forall_mem_singleton.mpr (file "result.csv")
      · exact List.forall_mem_singleton.mpr (file "log.txt")
  case distinct => exact fun direction => by cases direction <;> decide

theorem storesForm_converter :
    ∃ form after stored, (Datum.ofValue converter.encode).toValue? = some form ∧
      populate { tools := [("http://example.org/convert", form)] } .empty = .ok (after, 1) ∧
      after.lookup? "http://example.org/convert" = some (.tool stored) ∧
      converter.StoresOutputs stored := by
  obtain ⟨form, read, stores⟩ :=
    storesForm_of_wellFormed wellFormed_converter (by decide) (by decide)
  obtain ⟨after, populated⟩ := stores.accepted [] "http://example.org/convert" .empty
  obtain ⟨stored, found, outputs⟩ := stores.outputs _ _ _ _ _ populated List.mem_cons_self
  exact ⟨form, after, stored, read, populated, found, outputs⟩

/-- The result was declared first, and is stored last. -/
theorem exists_reordered_outputs :
    ∃ form after stored, (Datum.ofValue converter.encode).toValue? = some form ∧
      populate { tools := [("http://example.org/convert", form)] } .empty = .ok (after, 1) ∧
      after.lookup? "http://example.org/convert" = some (.tool stored) ∧
      converter.WellFormed ∧ (∀ key ∈ converter.output.keys, Iri.IsFull key) ∧
      converter.outputFileNames "http://example.org/convert" = .ok ["result.csv", "log.txt"] ∧
      stored.outputFileNames "http://example.org/convert" = .ok ["log.txt", "result.csv"] :=
  ⟨_, _, _, rfl, rfl, rfl, wellFormed_converter, by decide, rfl, rfl⟩

end Document

end WorkflowChain
