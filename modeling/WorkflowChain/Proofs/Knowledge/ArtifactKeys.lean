import WorkflowChain.Proofs.Data.Fields
import WorkflowChain.Proofs.Knowledge.Contents

/-! # The artifacts of stored tools

A tool documents templates for the artifacts that it reads and for those that it writes. In the
store the artifacts have their identifiers, and the templates are collected again under these. Two
spellings of one identifier meet then: the store has the templates of the one that comes last, and
nothing of the others (`Document.storesArtifacts_of_populate`). So nothing is lost exactly if the
artifacts of a side have different identifiers. The keys of a document are not checked at this
level, as they are for the resources themselves.
-/

namespace WorkflowChain

/-- The last of related items are related. -/
theorem rel_getLast? {α β : Type} {related : α → β → Prop} {items : List α} {results : List β}
    (each : List.Forall₂ related items results) :
    Option.Rel related items.getLast? results.getLast? := by
  have backwards : List.Forall₂ related items.reverse results.reverse := List.rel_reverse each
  rw [← List.head?_reverse, ← List.head?_reverse]
  generalize items.reverse = items, results.reverse = results at backwards ⊢
  cases backwards with
  | nil => exact .none
  | cons last _ => exact .some last

namespace Descriptor

/-- What a resource documents for the artifacts of one side. -/
def artifacts (resource : Value) (direction : Direction) : Table Value :=
  ((resource.field? direction.name).bind Value.entries?).getD []

/-- An artifact is documented with templates. -/
def Documents (artifact : String × Value) (templates : List Template) : Prop :=
  Entry.decodeTemplates (Datum.ofValue artifact.2) = .ok templates

/-- An artifact is documented with the templates of a binding, under the same key. -/
def Gives (artifact : String × Value) (binding : String × List Template) : Prop :=
  binding.1 = artifact.1 ∧ Documents artifact binding.2

/-! ## The sides of a descriptor -/

def Field.ofDirection : Direction → Field
  | .input => .input
  | .output => .output

/-- The bindings of one side that were read so far. -/
def Draft.side (direction : Direction) (draft : Draft) : Option Bindings :=
  match direction with
  | .input => draft.input
  | .output => draft.output

theorem ofKey_eq_iff {key : String} {direction : Direction} :
    reader.ofKey key = some (Field.ofDirection direction) ↔ key = direction.name := by
  constructor
  · intro read
    dsimp only [reader] at read
    split at read <;> cases direction <;> first | rfl | cases read
  · rintro rfl
    cases direction <;> rfl

/-- The bindings of a side are read from the field that has its name. -/
theorem readsField (direction : Direction) :
    reader.ReadsField (Field.ofDirection direction) direction.name decodeBindings
      (Draft.side direction) := by
  constructor
  case spelled => exact ofKey_eq_iff
  case known => exact fun draft => by cases direction <;> rfl
  case own =>
    intro datum draft next took
    cases direction <;>
    · obtain ⟨bindings, decoded, same⟩ := bind_ok.mp took
      cases same
      exact ⟨bindings, decoded, rfl⟩
  case other =>
    intro different datum draft next other took
    cases different <;>
    · obtain ⟨_, _, same⟩ := bind_ok.mp took
      cases same
      cases direction <;> first | rfl | exact absurd rfl other

/-- The bindings of a descriptor are those that its value documents, in their order. -/
theorem bindings_of_decode {fields : Table Value} {descriptor : Descriptor}
    (decoded : decode (Datum.ofValue (.map fields)) = .ok descriptor) (direction : Direction) :
    ∃ read, descriptor.bindings direction = Table.ofEntries read ∧
      List.Forall₂ Gives (artifacts (.map fields) direction) read := by
  obtain ⟨draft, taken, finished⟩ := bind_ok.mp decoded
  have side : descriptor.bindings direction = (draft.side direction).getD [] := by
    cases finished
    cases direction <;> rfl
  have start : Draft.side direction reader.start = none := by cases direction <;> rfl
  have related := (readsField direction).rel_of_takeEntries start taken
  rw [side, artifacts, Value.field?]
  generalize fields.lookup direction.name = written, draft.side direction = bindings at related ⊢
  cases related with
  | none => exact ⟨[], rfl, .nil⟩
  | some bound =>
    obtain ⟨entries, read, rfl, rfl, each⟩ := Datum.decodeTable_ofValue bound
    exact ⟨read, rfl, each⟩

end Descriptor

namespace Document

/-! ## Bindings under identifiers -/

/-- The artifact of a binding is written as an identifier. -/
def expandBinding (document : Document) (binding : String × List Template) :
    String × List Template :=
  (document.expand binding.1, binding.2)

/-- All artifacts of one side have their templates in the store, which has a binding for each. -/
def KeepsArtifacts (document : Document) (artifacts : Table Value) (stored : Bindings) : Prop :=
  (∀ artifact ∈ artifacts, ∃ templates, Descriptor.Documents artifact templates ∧
    stored.lookup (document.expand artifact.1) = some templates) ∧
  stored.length = artifacts.length

/-- How the artifacts of one side of a tool are stored. -/
structure StoresArtifacts (document : Document) (artifacts : Table Value) (stored : Bindings) :
    Prop where
  /-- Of the spellings of an identifier the last counts, and what has none is not stored. -/
  last : artifacts.keys.Nodup → ∀ identifier,
    Option.Rel Descriptor.Documents
      (artifacts.filter fun artifact => document.expand artifact.1 = identifier).getLast?
      (stored.lookup identifier)
  /-- There is one binding for each identifier. -/
  count : stored.length = (artifacts.keys.map document.expand).toFinset.card
  kept : document.KeepsArtifacts artifacts stored ↔ (artifacts.keys.map document.expand).Nodup

theorem keys_map_expandBinding (document : Document) (bindings : Bindings) :
    Table.keys (bindings.map document.expandBinding) =
      (Table.keys bindings).map document.expand := by
  rw [Table.keys, Table.keys, List.map_map, List.map_map]
  rfl

section Stores

variable {document : Document} {artifacts : Table Value} {read : Bindings}
  (each : List.Forall₂ Descriptor.Gives artifacts read)

include each

theorem keys_of_gives : Table.keys read = artifacts.keys := by
  induction each with
  | nil => rfl
  | cons own _ ih =>
    rw [Table.keys, List.map_cons, own.1, ← Table.keys, ih]
    rfl

/-- An artifact and its binding have one identifier, so that the last ones of an identifier are
those of one artifact. -/
theorem last_of_gives (identifier : String) :
    Option.Rel Descriptor.Documents
      (artifacts.filter fun artifact => document.expand artifact.1 = identifier).getLast?
      ((read.filter fun binding => document.expand binding.1 = identifier).getLast?.map
        Prod.snd) := by
  have chosen := List.rel_filter (p := fun artifact => document.expand artifact.1 = identifier)
    (q := fun binding => document.expand binding.1 = identifier) (fun _ _ own => by simp [own.1])
    each
  rw [← List.getLast?_map]
  exact rel_getLast? (List.forall₂_map_right_iff.mpr (chosen.imp fun _ _ own => own.2))

/-- If the artifacts have different identifiers, each binding is stored as it was read. -/
theorem expandBindings_of_gives (distinct : (artifacts.keys.map document.expand).Nodup) :
    document.expandBindings (Table.ofEntries read) = read.map document.expandBinding := by
  rw [← keys_of_gives each] at distinct
  rw [Table.ofEntries_eq_self distinct.of_map]
  exact (document.storesBindings_expandBindings read).exact distinct

/-- Whatever meets, there is one binding for each identifier. -/
theorem length_expandBindings :
    (document.expandBindings (Table.ofEntries read)).length =
      (artifacts.keys.map document.expand).toFinset.card := by
  have same : (Table.keys (document.expandBindings (Table.ofEntries read))).toFinset =
      (artifacts.keys.map document.expand).toFinset := by
    ext identifier
    rw [(document.storesBindings_expandBindings _).keys, List.mem_toFinset, List.mem_toFinset,
      List.mem_eraseDups, List.mem_map, List.mem_map, ← keys_of_gives each]
    simp only [Table.mem_keys_ofEntries]
    rfl
  have distinct : (Table.keys (document.expandBindings (Table.ofEntries read))).Nodup :=
    Table.nodup_keys_ofEntries _
  rw [← same, List.toFinset_card_of_nodup distinct, Table.keys, List.length_map]

/-- The artifacts of one side are stored as their bindings are expanded. -/
theorem storesArtifacts_of_gives :
    document.StoresArtifacts artifacts (document.expandBindings (Table.ofEntries read)) := by
  constructor
  case last =>
    intro distinct identifier
    rw [← keys_of_gives each] at distinct
    rw [Table.ofEntries_eq_self distinct,
      (document.storesBindings_expandBindings read).templates]
    exact last_of_gives each identifier
  case count => exact length_expandBindings each
  case kept =>
    constructor
    · rintro ⟨_, kept⟩
      rw [length_expandBindings each] at kept
      apply Multiset.coe_nodup.mp
      rw [← Multiset.toFinset_card_eq_card_iff_nodup, Multiset.coe_card, List.length_map,
        Table.keys, List.length_map]
      exact kept
    · intro distinct
      rw [expandBindings_of_gives each distinct]
      refine ⟨fun artifact member => ?_, ?_⟩
      · obtain ⟨binding, listed, own⟩ := exists_of_forall₂ each member
        refine ⟨binding.2, own.2, ?_⟩
        rw [← keys_of_gives each, ← keys_map_expandBinding] at distinct
        exact Table.lookup_of_mem distinct (own.1 ▸ List.mem_map_of_mem listed)
      · rw [List.length_map, each.length_eq]

end Stores

/-! ## Populated stores -/

/-- What is stored as a tool was documented as a map. -/
theorem exists_fields_of_addTool {document : Document} {known after : List Resource}
    {entry : String × Value} (added : document.addTool known entry = .ok after) :
    ∃ fields, entry.2 = .map fields := by
  obtain ⟨_, _, added⟩ := bind_ok.mp added
  cases described : entry.2 with
  | map fields => exact ⟨fields, rfl⟩
  | _ =>
    rw [described] at added
    cases added

/-- **The artifacts of stored tools.** Each artifact of a tool is stored under its identifier. If
two artifacts of one side have the same identifier, then the store has the templates of the last,
and exactly then some are lost. -/
theorem storesArtifacts_of_populate {document : Document} {store after : Store} {count : Nat}
    (populated : document.populate store = .ok (after, count)) :
    ∀ entry ∈ document.tools, ∃ descriptor,
      after.lookup? (document.expand entry.1) = some (.tool descriptor) ∧
      ∀ direction, document.StoresArtifacts (Descriptor.artifacts entry.2 direction)
        (descriptor.bindings direction) := by
  obtain ⟨resources, decoded, rfl, rfl⟩ := populate_ok populated
  intro entry listed
  obtain ⟨fields, isMap⟩ : ∃ fields, entry.2 = .map fields := by
    obtain ⟨_, _, rest⟩ := bind_ok.mp decoded
    obtain ⟨_, described, _⟩ := bind_ok.mp rest
    obtain ⟨_, _, added⟩ := exists_step_of_foldlM_ok described listed
    exact exists_fields_of_addTool added
  have lists := lists_of_resources decoded
  obtain ⟨descriptor, described, found⟩ := lists.tool entry listed
  have kept := document.lookup?_foldl_withResource lists.distinct store (document.expand entry.1)
  rw [found, Option.elim_some] at kept
  refine ⟨_, kept, fun direction => ?_⟩
  rw [isMap] at described ⊢
  obtain ⟨read, bindings, each⟩ := Descriptor.bindings_of_decode described direction
  have stored : document.StoresArtifacts _ _ := storesArtifacts_of_gives each
  rw [← bindings] at stored
  -- A native type does not change the bindings.
  cases direction <;> exact stored

/-- A tool whose input is spelled in two ways. -/
def spellings : Document where
  namespaces := [("ex", "http://example.org/")]
  tools := [("ex:tool", .map [
    ("input", .map [
      ("ex:raw", .list [.map [("function", .map [("location", .text "raw.csv")])]]),
      ("http://example.org/raw", .list [.map [("function", .map
        [("location", .text "samples.csv")])]])]),
    ("output", .map [
      ("ex:report", .list [.map [("dataresource", .map [("downloadUrl", .text "report.txt")])]]),
      ("ex:result", .list [.map [("dataresource", .map
        [("downloadUrl", .text "result.csv")])]])])])]

/-- The outputs are all stored, and the inputs have one binding. -/
theorem storesArtifacts_spellings :
    ∃ after tool descriptor, spellings.populate .empty = .ok (after, 1) ∧
      spellings.tools = [("ex:tool", tool)] ∧
      after.lookup? "http://example.org/tool" = some (.tool descriptor) ∧
      spellings.KeepsArtifacts (Descriptor.artifacts tool .output) (descriptor.bindings .output) ∧
      (descriptor.bindings .input).length = 1 := by
  obtain ⟨after, populated⟩ : ∃ after, spellings.populate .empty = .ok (after, 1) := ⟨_, rfl⟩
  obtain ⟨descriptor, found, stores⟩ :=
    storesArtifacts_of_populate populated _ (List.mem_singleton.mpr rfl)
  exact ⟨after, _, descriptor, populated, rfl, found, (stores .output).kept.mpr (by decide),
    (stores .input).count.trans (by decide)⟩

/-- The input that is documented first is not in the store: its identifier has the file of the
other spelling. -/
theorem exists_lost_artifact :
    ∃ after tool descriptor, spellings.populate .empty = .ok (after, 1) ∧
      spellings.tools = [("ex:tool", tool)] ∧
      after.lookup? "http://example.org/tool" = some (.tool descriptor) ∧
      (Descriptor.artifacts tool .input).keys = ["ex:raw", "http://example.org/raw"] ∧
      spellings.expand "ex:raw" = "http://example.org/raw" ∧
      descriptor.inputFileName? "http://example.org/raw" = some "samples.csv" ∧
      ¬spellings.KeepsArtifacts (Descriptor.artifacts tool .input) (descriptor.bindings .input) :=
  ⟨_, _, _, rfl, rfl, rfl, rfl, by decide, rfl, fun kept => absurd kept.2 (by decide)⟩

end Document

end WorkflowChain
