import WorkflowChain.Compile.Assembly
import WorkflowChain.Proofs.Knowledge.Vocabulary
import WorkflowChain.Proofs.Pipeline.Decoration
import WorkflowChain.Proofs.Success

/-! # Plain pipelines

A plain pipeline runs the strategies of datasets one after the other, each under the local name of
the dataset and the name of the strategy. These names are not always distinct: two datasets may have
one local name, and a dataset may list a strategy twice. Then the pipeline is refused, with the
first name that stands there already. In all other cases it is assembled
(`Assembly.isPlain_of_resolved`).
-/

namespace WorkflowChain

/-- The names of strategies have no underscore. -/
theorem StageKind.notMem_of_ofStrategy? {strategy : String}
    (known : (ofStrategy? strategy).isSome = true) : '_' ∉ strategy.toList := by
  unfold ofStrategy? at known
  split at known <;> first | decide | cases known

namespace Assembly

section Plain

variable (identifiers : List String) (templates : String → List Template)

/-- The stages of datasets in their order, with all templates of each. -/
def plainStages : List Stage :=
  identifiers.flatMap fun identifier => (templates identifier).map fun template =>
    Stage.ofTemplate template (Iri.suffix identifier ++ "_" ++ template.strategy)

/-- The local name of the dataset and the strategy for each stage. -/
def plainLabels : List (String × String) :=
  identifiers.flatMap fun identifier => (templates identifier).map fun template =>
    (Iri.suffix identifier, template.strategy)

theorem map_name_plainStages :
    (plainStages identifiers templates).map Stage.name =
      (plainLabels identifiers templates).map fun label => label.1 ++ "_" ++ label.2 := by
  rw [plainStages, plainLabels, List.map_flatMap, List.map_flatMap]
  simp only [List.map_map]
  rfl

end Plain

/-- A name tells the local name and the strategy from which it is made. -/
theorem label_inj {label other : String × String} (plain : '_' ∉ label.2.toList)
    (simple : '_' ∉ other.2.toList)
    (same : label.1 ++ "_" ++ label.2 = other.1 ++ "_" ++ other.2) : label = other := by
  have ending : ∀ first second : String, '_' ∉ second.toList →
      Text.afterLast '_' (first ++ "_" ++ second) = second := by
    intro first second absent
    have parts : first ++ "_" ++ second = String.ofList (first.toList ++ '_' :: second.toList) := by
      apply String.toList_inj.mp
      simp
    rw [parts, Vocabulary.afterLast_append absent, String.ofList_toList]
  have strategies : label.2 = other.2 := by
    rw [← ending label.1 label.2 plain, same, ending other.1 other.2 simple]
  rw [strategies, String.append_assoc, String.append_assoc, String.append_left_inj] at same
  exact Prod.ext same strategies

/-- If all strategies are known, then the names are distinct exactly if no two templates have both
the local name of their datasets and the strategy in common. -/
theorem nodup_name_plainStages_iff {identifiers : List String} {templates : String → List Template}
    (known : ∀ identifier ∈ identifiers, ∀ template ∈ templates identifier,
      template.kind?.isSome = true) :
    ((plainStages identifiers templates).map Stage.name).Nodup ↔
      (plainLabels identifiers templates).Nodup := by
  have plain : ∀ label ∈ plainLabels identifiers templates, '_' ∉ label.2.toList := by
    intro label member
    obtain ⟨identifier, listed, member⟩ := List.mem_flatMap.mp member
    obtain ⟨template, own, rfl⟩ := List.mem_map.mp member
    exact StageKind.notMem_of_ofStrategy? (known identifier listed template own)
  rw [map_name_plainStages]
  constructor
  · exact List.Nodup.of_map _
  · intro distinct
    refine distinct.map_on fun label member other listed same => ?_
    exact label_inj (plain label member) (plain other listed) same

/-- What a plain pipeline through datasets is. -/
structure IsPlain (store : Store) (identifiers : List String)
    (templates : String → List Template) : Prop where
  accepted : (∃ fragment, ofDatasets store identifiers = .ok fragment) ↔
    ((plainStages identifiers templates).map Stage.name).Nodup
  runs : ∀ fragment, ofDatasets store identifiers = .ok fragment →
    fragment.stages = plainStages identifiers templates ∧
      fragment.pipe = Text.joinWith pipeSeparator (fragment.stages.map Stage.name)
  /-- The reason for a refusal is the first stage whose name an earlier one has. -/
  refused : ∀ failure, ofDatasets store identifiers = .error failure →
    ∃ before stage after, plainStages identifiers templates = before ++ stage :: after ∧
      (before.map Stage.name).Nodup ∧ stage.name ∈ before.map Stage.name ∧
      failure = .conflict stage.name
  distinct : (∀ identifier ∈ identifiers, ∀ template ∈ templates identifier,
      template.kind?.isSome = true) →
    (((plainStages identifiers templates).map Stage.name).Nodup ↔
      (plainLabels identifiers templates).Nodup)

theorem ofDatasets_eq {store : Store} {identifiers : List String}
    {templates : String → List Template}
    (resolved : ∀ identifier ∈ identifiers,
      store.datasetTemplates identifier = .ok (templates identifier)) :
    ofDatasets store identifiers = (do
      checkUniqueNames (plainStages identifiers templates)
      return ⟨plainStages identifiers templates, Text.joinWith pipeSeparator
        ((plainStages identifiers templates).map Stage.name)⟩) := by
  have each : ∀ identifier ∈ identifiers, datasetStages store identifier =
      .ok ((templates identifier).map fun template =>
        Stage.ofTemplate template (Iri.suffix identifier ++ "_" ++ template.strategy)) := by
    intro identifier listed
    rw [datasetStages, resolved identifier listed]
    rfl
  rw [ofDatasets, mapM_eq_ok_map each]
  rfl

/-- **Plain pipelines.** If all identifiers are those of datasets, then the only reason against a
plain pipeline through them is that two of its stages have one name. -/
theorem isPlain_of_resolved {store : Store} {identifiers : List String}
    {templates : String → List Template}
    (resolved : ∀ identifier ∈ identifiers,
      store.datasetTemplates identifier = .ok (templates identifier)) :
    IsPlain store identifiers templates := by
  have assembled := ofDatasets_eq resolved
  constructor
  case accepted =>
    rw [assembled, ← checkUniqueNames_ok]
    constructor
    · rintro ⟨_, ran⟩
      obtain ⟨_, checked, _⟩ := bind_ok.mp ran
      exact checked
    · exact fun checked => ⟨_, bind_ok.mpr ⟨(), checked, rfl⟩⟩
  case runs =>
    intro fragment ran
    rw [assembled] at ran
    obtain ⟨_, _, same⟩ := bind_ok.mp ran
    cases same
    exact ⟨rfl, rfl⟩
  case refused =>
    intro failure ran
    rw [assembled] at ran
    rcases bind_error.mp ran with failed | ⟨_, _, same⟩
    · exact checkUniqueNames_error failed
    · cases same
  case distinct => exact nodup_name_plainStages_iff

/-- A store in which two datasets have one local name, and one lists a strategy twice. -/
def shelf : Store where
  entries := [
    ("http://a.example.org/raw", .dataset [⟨"dataresource", []⟩, ⟨"function", []⟩]),
    ("http://b.example.org/raw", .dataset [⟨"dataresource", []⟩]),
    ("http://a.example.org/samples", .dataset [⟨"parser", []⟩]),
    ("http://a.example.org/twice", .dataset [⟨"function", []⟩, ⟨"function", []⟩])]

/-- A pipeline through two datasets, with all stages of the first before the stage of the second. -/
theorem isPlain_shelf :
    ∃ fragment, ofDatasets shelf ["http://a.example.org/raw", "http://a.example.org/samples"] =
        .ok fragment ∧
      fragment.stages.map Stage.name = ["raw_dataresource", "raw_function", "samples_parser"] ∧
      fragment.pipe = "raw_dataresource | raw_function | samples_parser" := by
  let templates : String → List Template := fun identifier =>
    if identifier = "http://a.example.org/raw" then [⟨"dataresource", []⟩, ⟨"function", []⟩]
    else [⟨"parser", []⟩]
  have plain : IsPlain shelf ["http://a.example.org/raw", "http://a.example.org/samples"]
      templates := by
    refine isPlain_of_resolved fun identifier listed => ?_
    simp only [List.mem_cons, List.not_mem_nil, or_false] at listed
    rcases listed with rfl | rfl <;> rfl
  obtain ⟨fragment, ran⟩ := plain.accepted.mpr (by decide)
  obtain ⟨stages, pipe⟩ := plain.runs fragment ran
  rw [stages] at pipe
  exact ⟨fragment, ran, by rw [stages]; rfl, pipe⟩

/-- Different identifiers of datasets do not suffice: their local names may be the same, and a
single dataset may list a strategy twice. -/
theorem exists_plain_conflict :
    ["http://a.example.org/raw", "http://b.example.org/raw"].Nodup ∧
      (∀ identifier ∈ ["http://a.example.org/raw", "http://b.example.org/raw",
        "http://a.example.org/twice"],
        ∃ templates, shelf.datasetTemplates identifier = .ok templates) ∧
      ofDatasets shelf ["http://a.example.org/raw", "http://b.example.org/raw"] =
        .error (.conflict "raw_dataresource") ∧
      ofDatasets shelf ["http://a.example.org/twice"] = .error (.conflict "twice_function") := by
  refine ⟨by decide, fun identifier listed => ?_, rfl, rfl⟩
  simp only [List.mem_cons, List.not_mem_nil, or_false] at listed
  rcases listed with rfl | rfl | rfl <;> exact ⟨_, rfl⟩

end Assembly

end WorkflowChain
