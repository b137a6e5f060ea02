import WorkflowChain.Proofs.Knowledge.Contents
import WorkflowChain.Proofs.Knowledge.Vocabulary

/-! # The types of data resources

The types that are recorded for a data resource say whether it is a source or a sink. If its last
loading strategy declares types, then these are recorded in full. A resource that is declared a
source in whatever spelling, or a sink in one of the two spellings that are known, has no other
types. But the declared types are looked at before they are expanded, and so a sink that is spelled
with another prefix for the namespace of the types is taken for a resource that declares nothing,
and is recorded as a source besides (`Document.recordsTypes_of_populate`).
-/

namespace WorkflowChain

/-- The vocabulary of the types of resources. -/
def typeVocabulary : Vocabulary where
  label := typePrefix
  base := "https://w3id.org/emmo/domain"
  plain := by decide

/-- The full type of a source of data. -/
def fullSourceType : String := typeNamespace ++ "DataSource"

/-- The full type of a sink of data. -/
def fullSinkType : String := typeNamespace ++ "DataSink"

theorem isSourceOrSink_iff {type : String} :
    isSourceOrSink type = true ↔
      type = sourceType ∨ type = sinkType ∨ type = fullSourceType ∨ type = fullSinkType := by
  simp [isSourceOrSink, fullSourceType, fullSinkType]

/-- The last strategy of a resource that loads data. -/
def loading? (resource : Value) : Option Value :=
  resource.items?.bind fun items => (items.filterMap (Value.field? "dataresource")).getLast?

/-- The types of a resource follow from the types that its last loading strategy declares. -/
theorem resourceTypes_ok {resource : Value} {types : List String}
    (typed : resourceTypes resource = .ok types) :
    types = (loading? resource).elim [sinkType] fun loading =>
      if (declaredTypes loading).any isSourceOrSink then declaredTypes loading
      else declaredTypes loading ++ [sourceType] := by
  unfold resourceTypes at typed
  unfold loading?
  cases listed : resource.items? with
  | none =>
    rw [listed] at typed
    cases typed
  | some items =>
    rw [listed] at typed
    dsimp only at typed
    rw [Option.bind_some]
    cases last : (items.filterMap (Value.field? "dataresource")).getLast? with
    | none =>
      rw [last] at typed
      cases typed
      rfl
    | some loading =>
      rw [last] at typed
      cases typed
      rfl

theorem Store.recorded_of_nil (types : List String) : recorded [] types = types.eraseDups := by
  have all : types.filter (· ∉ []) = types := List.filter_eq_self.mpr fun _ _ => by simp
  rw [recorded, all, List.nil_append]

theorem eraseDups_concat (types : List String) (type : String) :
    (types ++ [type]).eraseDups =
      if type ∈ types then types.eraseDups else types.eraseDups ++ [type] := by
  rw [List.eraseDups_append]
  by_cases known : type ∈ types
  · simp [known, List.removeAll]
  · have single : [type].eraseDups = [type] := by rw [List.eraseDups_cons]; rfl
    simp [known, List.removeAll, single]

namespace Document

/-- How the types that a strategy declares are recorded. -/
structure RecordsDeclared (document : Document) (declared recorded : List String) : Prop where
  /-- There are no other types exactly if the resource is declared a source, or a sink in a spelling
  that is known. -/
  kept : recorded = (declared.map document.expand).eraseDups ↔
    fullSourceType ∈ declared.map document.expand ∨ sinkType ∈ declared ∨ fullSinkType ∈ declared
  /-- Else the resource is recorded as a source besides. -/
  added : recorded ≠ (declared.map document.expand).eraseDups →
    recorded = (declared.map document.expand).eraseDups ++ [fullSourceType]

/-- How the types of a data resource are recorded. -/
structure RecordsTypes (document : Document) (resource : Value) (recorded : List String) :
    Prop where
  sourceOrSink : fullSourceType ∈ recorded ∨ fullSinkType ∈ recorded
  declared : ∀ loading, loading? resource = some loading →
    document.RecordsDeclared (declaredTypes loading) recorded

/-- If no declared type is written as that of a source or sink, then the resource is a source
besides. -/
theorem recordsDeclared_of_not_found (document : Document) {declared : List String}
    (missed : ¬declared.any isSourceOrSink = true) :
    document.RecordsDeclared declared
      (declared.map document.expand ++ [fullSourceType]).eraseDups := by
  have noSink : ¬(sinkType ∈ declared ∨ fullSinkType ∈ declared) := by
    rintro (member | member)
    · exact missed (List.any_eq_true.mpr ⟨_, member, by decide⟩)
    · exact missed (List.any_eq_true.mpr ⟨_, member, by decide⟩)
  rw [eraseDups_concat]
  by_cases source : fullSourceType ∈ declared.map document.expand
  · rw [if_pos source]
    exact ⟨iff_of_true rfl (.inl source), fun other => absurd rfl other⟩
  · rw [if_neg source]
    refine ⟨iff_of_false (fun same => ?_) (not_or.mpr ⟨source, noSink⟩), fun _ => rfl⟩
    exact List.cons_ne_nil _ _ (List.append_right_eq_self.mp same)

section Undeclared

variable {document : Document} (undeclared : typePrefix ∉ document.namespaces.keys)

include undeclared

/-- If a document does not give it another one, the prefix of the types has its namespace. -/
theorem expand_typeKey (name : String) (isName : Vocabulary.IsName name) :
    document.expand (typePrefix ++ ":" ++ name) = typeNamespace ++ name := by
  have absent : document.namespaces.lookup typePrefix = none := by
    rw [List.lookup_eq_none_iff]
    intro entry listed
    rw [bne_iff_ne]
    intro same
    exact undeclared (same ▸ List.mem_map_of_mem listed)
  have own : (document.namespaces ++ [(typePrefix, typeNamespace)]).lookup typePrefix =
      some typeNamespace := by
    rw [List.lookup_append, absent]
    rfl
  exact (typeVocabulary.expand_key name isName _).trans (by rw [typeVocabulary, own]; rfl)

theorem expand_sourceType : document.expand sourceType = fullSourceType :=
  expand_typeKey undeclared "DataSource" (by decide)

theorem expand_sinkType : document.expand sinkType = fullSinkType :=
  expand_typeKey undeclared "DataSink" (by decide)

/-- Types that are found to say source or sink do so when they are expanded. -/
theorem cases_of_isSourceOrSink {declared : List String}
    (found : declared.any isSourceOrSink = true) :
    fullSourceType ∈ declared.map document.expand ∨ sinkType ∈ declared ∨
      fullSinkType ∈ declared := by
  obtain ⟨type, member, isKnown⟩ := List.any_eq_true.mp found
  rcases isSourceOrSink_iff.mp isKnown with rfl | rfl | rfl | rfl
  · exact .inl (expand_sourceType undeclared ▸ List.mem_map_of_mem member)
  · exact .inr (.inl member)
  · exact .inl (List.mem_map.mpr ⟨_, member, Iri.expand_of_isFull (by decide) _⟩)
  · exact .inr (.inr member)

/-- In whichever of the known spellings a sink is declared, its full type is recorded. -/
theorem fullSinkType_mem {declared : List String}
    (sink : sinkType ∈ declared ∨ fullSinkType ∈ declared) :
    fullSinkType ∈ declared.map document.expand := by
  rcases sink with member | member
  · exact expand_sinkType undeclared ▸ List.mem_map_of_mem member
  · exact List.mem_map.mpr ⟨_, member, Iri.expand_of_isFull (by decide) _⟩

/-- If a declared type is written as that of a source or sink, then nothing is added. -/
theorem recordsDeclared_of_found {declared : List String}
    (found : declared.any isSourceOrSink = true) :
    document.RecordsDeclared declared (declared.map document.expand).eraseDups :=
  ⟨iff_of_true rfl (cases_of_isSourceOrSink undeclared found), fun other => absurd rfl other⟩

/-- What is recorded for a resource follows from its types. -/
theorem recordsTypes_of_resourceTypes {resource : Value} {types : List String}
    (typed : resourceTypes resource = .ok types) :
    document.RecordsTypes resource (types.map document.expand).eraseDups := by
  obtain rfl := resourceTypes_ok typed
  cases last : loading? resource with
  | none =>
    rw [Option.elim_none, List.map_singleton, expand_sinkType undeclared]
    exact ⟨.inr (List.mem_eraseDups.mpr (List.mem_singleton.mpr rfl)), fun _ found =>
      nomatch last.symm.trans found⟩
  | some loading =>
    rw [Option.elim_some]
    by_cases found : (declaredTypes loading).any isSourceOrSink = true
    · rw [if_pos found]
      constructor
      case sourceOrSink =>
        rw [List.mem_eraseDups, List.mem_eraseDups]
        exact (cases_of_isSourceOrSink undeclared found).imp_right (fullSinkType_mem undeclared)
      case declared =>
        intro other same
        obtain rfl : loading = other := Option.some.inj (last.symm.trans same)
        exact recordsDeclared_of_found undeclared found
    · rw [if_neg found, List.map_append, List.map_singleton, expand_sourceType undeclared]
      constructor
      case sourceOrSink =>
        rw [List.mem_eraseDups, List.mem_append]
        exact .inl (.inr (List.mem_singleton.mpr rfl))
      case declared =>
        intro other same
        obtain rfl : loading = other := Option.some.inj (last.symm.trans same)
        exact recordsDeclared_of_not_found document found

end Undeclared

/-- **The types of data resources.** In a store that was populated with a document, the types of
each data resource say source or sink. The types that it declares are recorded in full, once each,
and no others, exactly if they say source in any spelling or sink in a known one. -/
theorem recordsTypes_of_populate {document : Document} {after : Store} {count : Nat}
    (undeclared : typePrefix ∉ document.namespaces.keys)
    (populated : document.populate .empty = .ok (after, count)) :
    ∀ entry ∈ document.data,
      document.RecordsTypes entry.2 (after.typesOf (document.expand entry.1)) := by
  intro entry listed
  obtain ⟨_, types, _, typed, _, recorded⟩ := data_of_populate populated listed
  have none : Store.empty.typesOf (document.expand entry.1) = [] := rfl
  rw [recorded, none, Store.recorded_of_nil]
  exact recordsTypes_of_resourceTypes undeclared typed

/-- A document with a report that is declared a sink, raw data whose last loading strategy declares a
source with another prefix, and a summary that is declared a sink with this prefix. -/
def samples : Document where
  namespaces := [("o", typeNamespace), ("ex", "http://example.org/")]
  data := [
    ("ex:report", .list [.map [("dataresource", .map
      [("type", .list [.text "ex:Report", .text "oteio:DataSink", .text "ex:Report"])])]]),
    ("ex:raw", .list [.map [("dataresource", .map [("type", .text "oteio:DataSink")])],
      .map [("dataresource", .map [("type", .text "o:DataSource")])], .map [("filter", .map [])]]),
    ("ex:summary", .list [.map [("dataresource", .map [("type", .text "o:DataSink")])]])]

/-- The report and the raw data have the types that are declared. -/
theorem recordsTypes_samples :
    ∃ after, typePrefix ∉ samples.namespaces.keys ∧ samples.populate .empty = .ok (after, 3) ∧
      after.typesOf "http://example.org/report" = ["http://example.org/Report", fullSinkType] ∧
      after.typesOf "http://example.org/raw" = [fullSourceType] := by
  have undeclared : typePrefix ∉ samples.namespaces.keys := by decide
  obtain ⟨after, populated⟩ : ∃ after, samples.populate .empty = .ok (after, 3) := ⟨_, rfl⟩
  have records := recordsTypes_of_populate undeclared populated
  have report := ((records _ (List.mem_cons_self ..)).declared _ rfl).kept.mpr (by decide)
  have raw := ((records _ (List.mem_cons_of_mem _ List.mem_cons_self)).declared _ rfl).kept.mpr
    (by decide)
  exact ⟨after, undeclared, populated, report.trans (by decide), raw.trans (by decide)⟩

/-- The summary is declared a sink and nothing else, and is recorded as a source too. -/
theorem exists_sink_as_source :
    ∃ after summary loading, typePrefix ∉ samples.namespaces.keys ∧
      samples.populate .empty = .ok (after, 3) ∧ ("ex:summary", summary) ∈ samples.data ∧
      loading? summary = some loading ∧
      ((declaredTypes loading).map samples.expand) = [fullSinkType] ∧
      after.typesOf (samples.expand "ex:summary") = [fullSinkType, fullSourceType] :=
  ⟨_, _, _, by decide, rfl, List.mem_cons_of_mem _ (List.mem_cons_of_mem _ List.mem_cons_self), rfl,
    by decide, by decide⟩

end Document

end WorkflowChain
