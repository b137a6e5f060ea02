import WorkflowChain.Proofs.Knowledge.NativeTypes
import WorkflowChain.Proofs.Knowledge.Vocabulary
import WorkflowChain.Proofs.Shell.CompileCommand

/-! # Spellings of an identifier

A user may write the identifier of a resource as the document writes it, in full, or with another
prefix for the same namespace. If the namespaces are those of full IRIs, then what was expanded is
expanded to itself, and so all spellings are expanded to one identifier. In a store that was
populated with the document they lead to the same entry, and commands do the same for all of them
(`Document.answers_every_spelling`).
-/

namespace WorkflowChain

/-! ## Expanding twice -/

namespace Iri

theorem IsFull.append {space : String} (full : IsFull space) (name : String) :
    IsFull (space ++ name) := by
  rw [IsFull, Text.occursIn_iff] at full ⊢
  rw [String.toList_append]
  exact full.trans (List.prefix_append ..).isInfix

/-- A key is left alone, or its prefix is replaced by one of the namespaces. -/
theorem expand_cases (namespaces : List (String × String)) (key : String) :
    expand namespaces key = key ∨
      ∃ entry ∈ namespaces, ∃ name, expand namespaces key = entry.2 ++ name := by
  unfold expand
  split
  · exact .inl rfl
  · split
    · exact .inl rfl
    next label name _ =>
      split
      next space found => exact .inr ⟨_, Table.mem_of_lookup found, name, rfl⟩
      · exact .inl rfl

/-- With namespaces of full IRIs, a key is either left as it is or expanded to a full IRI. -/
theorem expand_expand {namespaces : List (String × String)}
    (full : ∀ entry ∈ namespaces, IsFull entry.2) (key : String) :
    expand namespaces (expand namespaces key) = expand namespaces key := by
  rcases expand_cases namespaces key with same | ⟨entry, declared, name, expanded⟩
  · rw [same, same]
  · rw [expanded]
    exact expand_of_isFull ((full entry declared).append name) namespaces

end Iri

namespace Document

/-- All namespaces that a document declares are those of full IRIs. -/
def DeclaresFull (document : Document) : Prop :=
  ∀ entry ∈ document.namespaces, Iri.IsFull entry.2

instance (document : Document) : Decidable document.DeclaresFull :=
  inferInstanceAs (Decidable (∀ entry ∈ document.namespaces, _))

/-- The ways to write a key of a document: as it is documented, in full, or with another prefix. -/
inductive Spells (document : Document) (key : String) : String → Prop
  | documented : Spells document key key
  | full : Spells document key (document.expand key)
  | prefixed {spelling : String} (same : document.expand spelling = document.expand key) :
    Spells document key spelling

variable {document : Document} {key spelling : String}

/-- **Expansion is idempotent**: what is expanded is full, and full names are left alone. -/
theorem expand_expand (full : document.DeclaresFull) (text : String) :
    document.expand (document.expand text) = document.expand text := by
  apply Iri.expand_expand
  have own : Iri.IsFull typeNamespace := by decide
  exact List.forall_mem_append.mpr ⟨full, List.forall_mem_singleton.mpr own⟩

/-- A spelling of a key is expanded like the key itself. -/
theorem Spells.expand_eq (full : document.DeclaresFull) (spells : document.Spells key spelling) :
    document.expand spelling = document.expand key := by
  cases spells with
  | documented => rfl
  | full => exact expand_expand full key
  | prefixed same => exact same

end Document

/-! ## Looking up -/

theorem Store.resolve_of_lookup? {store : Store} {identifier : String} {entry : Entry}
    (found : store.lookup? identifier = some entry) (context : String) :
    store.resolve identifier context = .ok entry := by
  rw [Store.resolve, found]

namespace Document

/-- Every spelling of a key leads to an entry of a store. -/
def Leads (document : Document) (store : Store) (key : String) (entry : Entry) : Prop :=
  ∀ spelling, document.Spells key spelling → ∀ context,
    store.resolve (document.expand spelling) context = .ok entry

/-- Every spelling of a key of a document leads to what the document says under the key. -/
structure Answers (document : Document) (store : Store) : Prop where
  data : ∀ entry ∈ document.data, ∃ templates,
    Entry.decodeTemplates (Datum.ofValue entry.2) = .ok templates ∧
      document.Leads store entry.1 (.dataset templates)
  tools : ∀ entry ∈ document.tools, ∃ descriptor,
    Descriptor.decode (Datum.ofValue entry.2) = .ok descriptor ∧
      document.Leads store entry.1 (.tool { document.expandDescriptor descriptor with
        datanodeType :=
          (document.nativeType? (document.expand entry.1)).or descriptor.datanodeType })
  types : ∀ entry ∈ document.datanodeTypes, ∃ type descriptor,
    document.nativeType? (document.expand entry.1) = some type ∧
      descriptor.datanodeType = some type ∧ document.Leads store entry.1 (.tool descriptor)

variable {document : Document}

/-- What is stored for a key is found by each of its spellings. -/
theorem leads_of_lookup? {store : Store} {key : String} {entry : Entry}
    (full : document.DeclaresFull) (found : store.lookup? (document.expand key) = some entry) :
    document.Leads store key entry := by
  intro spelling spells context
  rw [spells.expand_eq full]
  exact Store.resolve_of_lookup? found context

/-- A populated store answers all spellings of all keys of its document. -/
theorem answers_of_populate {store after : Store} {count : Nat} (full : document.DeclaresFull)
    (populated : document.populate store = .ok (after, count)) : document.Answers after := by
  constructor
  case data =>
    intro entry listed
    obtain ⟨templates, _, loaded, _, found, _⟩ := data_of_populate populated listed
    exact ⟨templates, loaded, leads_of_lookup? full found⟩
  case tools =>
    intro entry listed
    obtain ⟨descriptor, described, found⟩ := tool_of_populate populated listed
    exact ⟨descriptor, described, leads_of_lookup? full found⟩
  case types =>
    intro entry listed
    obtain ⟨type, given, descriptor, found, typed⟩ := hasType_of_populate populated listed
    exact ⟨type, descriptor, given, typed, leads_of_lookup? full found⟩

end Document

/-! ## Commands -/

namespace Shell

section

variable {tree : FileTree} {path : String} {document : Document} {store : Store}
  (populates : tree.Populates path document store)

include populates

theorem outcome_loadStore :
    outcome (loadStore FileTree.access path) tree = (.ok (document, store), tree) := by
  obtain ⟨result, ran, found⟩ := finds_loadStore path tree
  rw [ran, (found (document, store)).mpr populates]

/-- A descriptor is looked for by the full IRI only. -/
theorem outcome_inspect (stamp : Stamp) (spelling : String) :
    outcome (perform FileTree.access stamp (.inspect path spelling)) tree =
      outcome (do
        let descriptor ← computed .compilation (store.descriptor (document.expand spelling))
        return descriptor.render) tree := by
  rw [perform, outcome_bind_ok (outcome_loadStore populates)]

/-- A plain pipeline is that of the datasets whose full names the command line gives. -/
theorem outcome_pipeline (stamp : Stamp) (spellings : List String) :
    outcome (perform FileTree.access stamp (.pipeline path spellings)) tree =
      outcome (do
        let fragment ← computed .compilation
          (Assembly.ofDatasets store (spellings.map document.expand))
        return fragment.render) tree := by
  rw [perform, outcome_bind_ok (outcome_loadStore populates)]

end

end Shell

namespace Document

open Shell

variable {document : Document}

theorem map_expand_of_spells {keys spellings : List String} (full : document.DeclaresFull)
    (spell : List.Forall₂ document.Spells keys spellings) :
    spellings.map document.expand = keys.map document.expand := by
  induction spell with
  | nil => rfl
  | cons spells _ ih => rw [List.map_cons, List.map_cons, spells.expand_eq full, ih]

/-- **Every spelling will do.** If the namespaces of a document are those of full IRIs, then
expanding is idempotent, every spelling of a key leads to what the document says under the key, in
any store that was populated with it, and the commands that are given identifiers do the same for
all their spellings. -/
theorem answers_every_spelling (full : document.DeclaresFull) :
    (∀ text, document.expand (document.expand text) = document.expand text) ∧
    (∀ store after count, document.populate store = .ok (after, count) →
      document.Answers after) ∧
    ∀ (tree : FileTree) path store, tree.Populates path document store → ∀ stamp,
      (∀ key spelling, document.Spells key spelling →
        outcome (perform FileTree.access stamp (.inspect path spelling)) tree =
          outcome (perform FileTree.access stamp (.inspect path key)) tree) ∧
      ∀ keys spellings, List.Forall₂ document.Spells keys spellings →
        outcome (perform FileTree.access stamp (.pipeline path spellings)) tree =
          outcome (perform FileTree.access stamp (.pipeline path keys)) tree := by
  refine ⟨expand_expand full, fun _ _ _ => answers_of_populate full, ?_⟩
  intro tree path store populates stamp
  constructor
  · intro key spelling spells
    rw [outcome_inspect populates, outcome_inspect populates, spells.expand_eq full]
  · intro keys spellings spell
    rw [outcome_pipeline populates, outcome_pipeline populates, map_expand_of_spells full spell]

/-- A document with two prefixes for one namespace. -/
def laboratory : Document where
  namespaces := [("ex", "http://example.org/"), ("lab", "http://example.org/")]
  data := [("lab:raw", .list [.map [("dataresource", .map [("downloadUrl", .text "raw.csv")])]])]
  tools := [("ex:tool", .map [("command", .text "tool.sh")])]
  datanodeTypes := [("http://example.org/report", "text")]

/-- The tool is found by its key, by its full IRI and by the other prefix, but not by a prefix that
the document does not declare. -/
theorem answers_every_spelling_laboratory :
    laboratory.DeclaresFull ∧ laboratory.Spells "ex:tool" "lab:tool" ∧
      laboratory.Spells "ex:tool" "http://example.org/tool" ∧
      ¬laboratory.Spells "ex:tool" "oteio:tool" ∧
      ∃ after, laboratory.populate .empty = .ok (after, 3) ∧ laboratory.Answers after ∧
        laboratory.expand (laboratory.expand "lab:raw") = "http://example.org/raw" := by
  have full : laboratory.DeclaresFull := by decide
  have ⟨idempotent, answers, _⟩ := answers_every_spelling full
  obtain ⟨after, populated⟩ : ∃ after, laboratory.populate .empty = .ok (after, 3) := ⟨_, rfl⟩
  refine ⟨full, .prefixed (by decide), .full, ?_, after, populated, ?_, ?_⟩
  · intro spells
    exact absurd (spells.expand_eq full) (by decide)
  · exact answers _ _ _ populated
  · exact idempotent "lab:raw"

end Document

end WorkflowChain
