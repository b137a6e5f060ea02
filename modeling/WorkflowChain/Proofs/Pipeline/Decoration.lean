import WorkflowChain.Pipeline.Adapter
import Mathlib.Data.List.Nodup

/-! # Decorated stages

What is added to stages when they are decorated. If no stage has the name of an adapter, nothing is
in the way of the adapters that the stages need, and `decorate_eq` says which these are: a wrap
stage for sources that are functions, an extraction stage for each location that a sink declares,
labelled by the first sink that declares it (`mem_sinkLocations`), and a collection stage for all
labels.
-/

namespace WorkflowChain

/-! ## Stages by name -/

namespace Stage

variable {stages : List Stage} {stage : Stage} {name : String}

theorem find?_eq_none_iff : find? stages name = none ↔ name ∉ stages.map Stage.name := by
  simp only [find?, List.find?_eq_none, decide_eq_true_eq, List.mem_map, not_exists, not_and]

theorem mem_of_find? (found : find? stages name = some stage) :
    stage ∈ stages ∧ stage.name = name := by
  refine ⟨List.mem_of_find?_eq_some found, ?_⟩
  simpa using List.find?_some found

theorem exists_find? (known : name ∈ stages.map Stage.name) :
    ∃ stage, find? stages name = some stage :=
  Option.ne_none_iff_exists'.mp fun absent => find?_eq_none_iff.mp absent known

/-- Stages that come later are not found by a name that is there already. -/
theorem find?_append_of_mem (known : name ∈ stages.map Stage.name) (added : List Stage) :
    find? (stages ++ added) name = find? stages name := by
  obtain ⟨stage, found⟩ := exists_find? known
  rw [found]
  rw [find?] at found ⊢
  rw [List.find?_append, found, Option.some_or]

/-- Names of stages that are there are looked up as if nothing had been added. -/
theorem filterMap_find?_append {names : List String} (known : names ⊆ stages.map Stage.name)
    (added : List Stage) :
    names.filterMap (find? (stages ++ added)) = names.filterMap (find? stages) :=
  List.filterMap_congr fun _ member => find?_append_of_mem (known member) added

section Distinct

variable (distinct : (stages.map Stage.name).Nodup)

include distinct

/-- If names are distinct, each stage is found under its own. -/
theorem find?_of_mem (member : stage ∈ stages) : find? stages stage.name = some stage := by
  obtain ⟨other, found⟩ := exists_find? (List.mem_map_of_mem member)
  obtain ⟨listed, same⟩ := mem_of_find? found
  rw [found, List.inj_on_of_nodup_map distinct listed member same]

/-- If names are distinct, stages can be told by their names. -/
theorem filterMap_find? {picked : List Stage} (known : picked ⊆ stages) :
    (picked.map Stage.name).filterMap (find? stages) = picked := by
  have each : ∀ stage ∈ picked, (find? stages ∘ Stage.name) stage = some stage :=
    fun stage member => find?_of_mem distinct (known member)
  rw [List.filterMap_map, List.filterMap_congr each, List.filterMap_some]

/-- No other stage has the name of a stage. -/
theorem filter_name_eq (member : stage ∈ stages) :
    stages.filter (·.name = stage.name) = [stage] := by
  obtain ⟨before, after, rfl⟩ := List.append_of_mem member
  rw [List.map_append, List.map_cons, List.nodup_middle, List.nodup_cons,
    ← List.map_append] at distinct
  have others : ∀ other ∈ before ++ after, ¬other.name = stage.name := by
    intro other listed same
    exact distinct.1 (List.mem_map.mpr ⟨other, listed, same⟩)
  have ⟨earlier, later⟩ := List.forall_mem_append.mp others
  simp only [List.filter_append, List.filter_cons, decide_true, ↓reduceIte]
  rw [List.filter_eq_nil_iff.mpr (by simpa using earlier),
    List.filter_eq_nil_iff.mpr (by simpa using later), List.nil_append]

end Distinct

end Stage

/-! ## Distinct names -/

theorem firstRepeated?_eq_none {seen names : List String} :
    firstRepeated? seen names = none ↔ names.Nodup ∧ ∀ name ∈ names, name ∉ seen := by
  induction names generalizing seen with
  | nil => simp [firstRepeated?]
  | cons name rest ih =>
    rw [firstRepeated?]
    split
    next repeated => simp [repeated]
    next fresh =>
      rw [ih]
      simp only [List.nodup_cons, List.mem_cons, not_or, forall_eq_or_imp]
      constructor
      · rintro ⟨distinct, others⟩
        exact ⟨⟨fun member => (others name member).1 rfl, distinct⟩, fresh,
          fun other member => (others other member).2⟩
      · rintro ⟨⟨absent, distinct⟩, _, others⟩
        exact ⟨distinct, fun other member => ⟨fun same => absent (same ▸ member),
          others other member⟩⟩

/-- Stages are accepted exactly if no two have one name. -/
theorem checkUniqueNames_ok {stages : List Stage} :
    checkUniqueNames stages = .ok () ↔ (stages.map Stage.name).Nodup := by
  have unrepeated : firstRepeated? [] (stages.map Stage.name) = none ↔
      (stages.map Stage.name).Nodup := by
    rw [firstRepeated?_eq_none]
    exact and_iff_left fun _ _ => List.not_mem_nil
  rw [← unrepeated, checkUniqueNames]
  split
  next found => simp [found]
  next found => simp [found]

/-- The name that is found is the first that stands among those before it. -/
theorem exists_of_firstRepeated? {seen names : List String} {name : String}
    (found : firstRepeated? seen names = some name) :
    ∃ before after, names = before ++ name :: after ∧ before.Nodup ∧
      (∀ other ∈ before, other ∉ seen) ∧ (name ∈ before ∨ name ∈ seen) := by
  induction names generalizing seen with
  | nil => cases found
  | cons first rest ih =>
    rw [firstRepeated?] at found
    split at found
    next repeated =>
      cases found
      exact ⟨[], rest, rfl, List.nodup_nil, List.forall_mem_nil _, .inr repeated⟩
    next fresh =>
      obtain ⟨before, after, rfl, distinct, others, known⟩ := ih found
      have ⟨absent, unseen⟩ : first ∉ before ∧ ∀ other ∈ before, other ∉ seen := by
        refine ⟨fun member => others first member List.mem_cons_self, fun other member => ?_⟩
        exact fun earlier => others other member (List.mem_cons_of_mem _ earlier)
      refine ⟨first :: before, after, rfl, List.nodup_cons.mpr ⟨absent, distinct⟩,
        List.forall_mem_cons.mpr ⟨fresh, unseen⟩, ?_⟩
      rcases known with member | member
      · exact .inl (List.mem_cons_of_mem _ member)
      · rcases List.mem_cons.mp member with rfl | earlier
        · exact .inl List.mem_cons_self
        · exact .inr earlier

/-- Stages are refused with the first name that an earlier one has. -/
theorem checkUniqueNames_error {stages : List Stage} {failure : Failure}
    (refused : checkUniqueNames stages = .error failure) :
    ∃ before stage after, stages = before ++ stage :: after ∧ (before.map Stage.name).Nodup ∧
      stage.name ∈ before.map Stage.name ∧ failure = .conflict stage.name := by
  unfold checkUniqueNames at refused
  split at refused
  next name found =>
    cases refused
    obtain ⟨names, others, split, distinct, _, known⟩ := exists_of_firstRepeated? found
    obtain ⟨before, later, rfl, rfl, rest⟩ := List.map_eq_append_iff.mp split
    obtain ⟨stage, after, rfl, rfl, rfl⟩ := List.map_eq_cons_iff.mp rest
    exact ⟨before, stage, after, rfl, distinct, known.resolve_right List.not_mem_nil, rfl⟩
  · cases refused

/-! ## Locations that sinks declare -/

/-- The location of the file that a stage reads, with the name of the stage. Adapters do not count.
-/
def Stage.declaration? (stage : Stage) : Option (String × String) :=
  if stage.kind = .adapter then none else stage.location?.map (·, stage.name)

theorem Stage.name_of_declaration? {stage : Stage} {location origin : String}
    (declared : stage.declaration? = some (location, origin)) : stage.name = origin := by
  unfold declaration? at declared
  split at declared
  · cases declared
  · obtain ⟨_, _, same⟩ := Option.map_eq_some_iff.mp declared
    exact (Prod.mk.inj same).2

/-- Note an entry, unless its key is known. -/
def noteNew (known : List (String × String)) (entry : String × String) : List (String × String) :=
  if known.any (·.1 = entry.1) then known else known ++ [entry]

/-- The entry of a key is the first one of that key. -/
theorem mem_foldl_noteNew {known entries : List (String × String)} {key value : String} :
    (key, value) ∈ entries.foldl noteNew known ↔
      (key, value) ∈ known ∨ key ∉ known.map Prod.fst ∧ entries.lookup key = some value := by
  induction entries generalizing known with
  | nil => simp
  | cons entry rest ih =>
    obtain ⟨own, first⟩ := entry
    rw [List.foldl_cons, ih, Table.lookup_cons, noteNew]
    by_cases noted : own ∈ known.map Prod.fst
    · -- The key is known, so that the entry is not the one that is asked for.
      have seen : known.any (·.1 = own) = true := by simpa using noted
      rw [if_pos seen]
      refine or_congr_right (and_congr_right fun absent => ?_)
      rw [if_neg fun same : key = own => absent (same ▸ noted)]
    · have fresh : ¬known.any (·.1 = own) = true := by simpa using noted
      rw [if_neg fresh, List.map_append, List.map_singleton]
      by_cases same : key = own
      · subst same
        have absent : (key, value) ∉ known := fun member =>
          noted (List.mem_map.mpr ⟨_, member, rfl⟩)
        simp [absent, noted, eq_comm]
      · simp [same]

/-- No key is noted twice. -/
theorem nodup_foldl_noteNew {known : List (String × String)} (entries : List (String × String))
    (distinct : (known.map Prod.fst).Nodup) :
    ((entries.foldl noteNew known).map Prod.fst).Nodup := by
  induction entries generalizing known with
  | nil => exact distinct
  | cons entry rest ih =>
    rw [List.foldl_cons]
    apply ih
    unfold noteNew
    split
    · exact distinct
    next fresh =>
      have absent : entry.1 ∉ known.map Prod.fst := by simpa using fresh
      rw [List.map_append, List.map_singleton]
      exact distinct.append (List.nodup_singleton _)
        (List.disjoint_singleton.mpr absent)

/-- The declarations of the stages with the given names. -/
def declarations (stages : List Stage) (sinks : List String) : List (String × String) :=
  (sinks.filterMap (Stage.find? stages)).filterMap Stage.declaration?

/-- The locations of sinks are noted one after the other, each for the first time only. -/
theorem sinkLocations_eq (stages : List Stage) (sinks : List String) :
    sinkLocations stages sinks = (declarations stages sinks).foldl noteNew [] := by
  rw [declarations, List.foldl_filterMap, sinkLocations]
  congr 1
  funext known stage
  unfold Stage.declaration?
  split
  · rfl
  · cases stage.location? <;> rfl

/-- **The locations of sinks.** Each location that a sink declares is listed with the first sink
that declares it. -/
theorem mem_sinkLocations {stages : List Stage} {sinks : List String} {location origin : String} :
    (location, origin) ∈ sinkLocations stages sinks ↔
      (declarations stages sinks).lookup location = some origin := by
  rw [sinkLocations_eq, mem_foldl_noteNew]
  simp

/-- A location that is listed is declared by the stage it is listed with. -/
theorem exists_stage_of_mem_sinkLocations {stages : List Stage} {sinks : List String}
    {location origin : String} (member : (location, origin) ∈ sinkLocations stages sinks) :
    ∃ stage, Stage.find? stages origin = some stage ∧
      stage.declaration? = some (location, origin) := by
  have listed : (location, origin) ∈ declarations stages sinks :=
    Table.mem_of_lookup (mem_sinkLocations.mp member)
  obtain ⟨stage, picked, declared⟩ := List.mem_filterMap.mp listed
  obtain ⟨name, _, found⟩ := List.mem_filterMap.mp picked
  refine ⟨stage, ?_, declared⟩
  rw [← Stage.name_of_declaration? declared, (Stage.mem_of_find? found).2, found]

/-- No sink is the first to declare two locations. -/
theorem nodup_origins (stages : List Stage) (sinks : List String) :
    ((sinkLocations stages sinks).map Prod.snd).Nodup := by
  have locations : ((sinkLocations stages sinks).map Prod.fst).Nodup := by
    rw [sinkLocations_eq]
    exact nodup_foldl_noteNew _ List.nodup_nil
  refine (List.Nodup.of_map _ locations).map_on ?_
  rintro ⟨location, origin⟩ member ⟨other, _⟩ listed rfl
  obtain ⟨stage, found, declared⟩ := exists_stage_of_mem_sinkLocations member
  obtain ⟨_, again, second⟩ := exists_stage_of_mem_sinkLocations listed
  cases found.symm.trans again
  exact Option.some.inj (declared.symm.trans second)

/-! ## The adapters that stages need -/

/-- The names that adapters have. -/
def IsAdapterName (name : String) : Prop :=
  name = "datanode2cuds" ∨ name = "cuds2datanode" ∨ ∃ origin, name = origin ++ "_file2collection"

/-- The name of an extraction stage has the ending of such names. -/
theorem extractName_ne {origin name : String} (last : name.toList.getLast? ≠ some 'n') :
    extractName origin ≠ name := by
  rintro rfl
  rw [extractName, String.toList_append, List.getLast?_append] at last
  exact last rfl

/-- Extraction stages for different sinks have different names. -/
theorem extractName_injective : Function.Injective extractName :=
  fun _ _ same => (String.append_left_inj _).mp same

/-- The wrap stage, if a source is a function. -/
def wrapsFor (stages : List Stage) (sources : List String) : List Stage :=
  if (sources.filterMap (Stage.find? stages)).any (·.kind.isFunction) then [wrapStage sources]
  else []

/-- The extraction stages, one for each location that a sink declares. -/
def extractionsFor (stages : List Stage) (sinks : List String) : List Stage :=
  (sinkLocations stages sinks).map fun file => extractStage file.1 file.2

/-- The labels of the files that are extracted: by sinks that do so themselves, and by extraction
stages. -/
def labelsFor (stages : List Stage) (sinks : List String) : List String :=
  (sinks.filterMap (Stage.find? stages)).filterMap extractionLabel?
    ++ (sinkLocations stages sinks).map Prod.snd

/-- The collection stage, if files are extracted. -/
def collectionsFor (stages : List Stage) (sinks : List String) : List Stage :=
  if (labelsFor stages sinks).isEmpty then [] else [collectStage (labelsFor stages sinks)]

/-- Stages without adapters: their names are distinct and none is that of an adapter, and the sides
name only these stages. -/
structure Undecorated (stages : List Stage) (sides : PipeSides) : Prop where
  distinct : (stages.map Stage.name).Nodup
  unreserved : ∀ stage ∈ stages, ¬IsAdapterName stage.name
  sources : sides.output ⊆ stages.map Stage.name
  sinks : sides.input ⊆ stages.map Stage.name

/-- All adapters that stages need. -/
def adaptersFor (stages : List Stage) (sides : PipeSides) : List Stage :=
  wrapsFor stages sides.output ++ extractionsFor stages sides.input
    ++ collectionsFor stages sides.input

theorem isWrap_of_mem_wrapsFor {stages : List Stage} {sources : List String} {stage : Stage}
    (member : stage ∈ wrapsFor stages sources) : stage.name = wrapName ∧ stage.kind = .adapter := by
  unfold wrapsFor at member
  split at member
  · cases List.mem_singleton.mp member
    exact ⟨rfl, rfl⟩
  · exact absurd member List.not_mem_nil

theorem isExtraction_of_mem_extractionsFor {stages : List Stage} {sinks : List String}
    {stage : Stage} (member : stage ∈ extractionsFor stages sinks) :
    (∃ origin, stage.name = extractName origin) ∧ stage.kind = .adapter := by
  obtain ⟨file, _, rfl⟩ := List.mem_map.mp member
  exact ⟨⟨file.2, rfl⟩, rfl⟩

theorem isCollection_of_mem_collectionsFor {stages : List Stage} {sinks : List String}
    {stage : Stage} (member : stage ∈ collectionsFor stages sinks) :
    stage.name = collectName ∧ stage.kind = .adapter := by
  unfold collectionsFor at member
  split at member
  · exact absurd member List.not_mem_nil
  · cases List.mem_singleton.mp member
    exact ⟨rfl, rfl⟩

/-- All that is added are adapters, with the names that are kept for them. -/
theorem isAdapter_of_mem_adaptersFor {stages : List Stage} {sides : PipeSides} {stage : Stage}
    (member : stage ∈ adaptersFor stages sides) :
    IsAdapterName stage.name ∧ stage.kind = .adapter := by
  rw [adaptersFor, List.mem_append, List.mem_append] at member
  rcases member with (wrap | extraction) | collection
  · have ⟨named, kind⟩ := isWrap_of_mem_wrapsFor wrap
    exact ⟨.inl named, kind⟩
  · have ⟨named, kind⟩ := isExtraction_of_mem_extractionsFor extraction
    exact ⟨.inr (.inr named), kind⟩
  · have ⟨named, kind⟩ := isCollection_of_mem_collectionsFor collection
    exact ⟨.inr (.inl named), kind⟩

/-- Extraction stages are not called like the wrap stage. -/
theorem extractName_notMem_wrapsFor (stages : List Stage) (sources : List String)
    (origin : String) : extractName origin ∉ (wrapsFor stages sources).map Stage.name := by
  intro member
  obtain ⟨wrap, listed, same⟩ := List.mem_map.mp member
  rw [(isWrap_of_mem_wrapsFor listed).1] at same
  exact extractName_ne (by decide) same.symm

/-- Neither the wrap stage nor an extraction stage is called like the collection stage. -/
theorem collectName_notMem (stages : List Stage) (sources sinks : List String) :
    collectName ∉ (wrapsFor stages sources ++ extractionsFor stages sinks).map Stage.name := by
  rw [List.map_append, List.mem_append, not_or]
  constructor
  · intro wrapped
    obtain ⟨wrap, listed, same⟩ := List.mem_map.mp wrapped
    rw [(isWrap_of_mem_wrapsFor listed).1] at same
    exact absurd same (by decide)
  · intro extracted
    obtain ⟨extraction, listed, same⟩ := List.mem_map.mp extracted
    obtain ⟨⟨origin, named⟩, _⟩ := isExtraction_of_mem_extractionsFor listed
    rw [named] at same
    exact extractName_ne (by decide) same

/-- The adapters that stages need are not in each other's way: their names are distinct. -/
theorem distinct_adaptersFor (stages : List Stage) (sides : PipeSides) :
    ((adaptersFor stages sides).map Stage.name).Nodup := by
  have wraps : ((wrapsFor stages sides.output).map Stage.name).Nodup := by
    unfold wrapsFor
    split
    · exact List.nodup_singleton _
    · exact List.nodup_nil
  have extractions : ((extractionsFor stages sides.input).map Stage.name).Nodup := by
    have origins := (nodup_origins stages sides.input).map extractName_injective
    rw [List.map_map] at origins
    rw [extractionsFor, List.map_map]
    exact origins
  have collections : ((collectionsFor stages sides.input).map Stage.name).Nodup := by
    unfold collectionsFor
    split
    · exact List.nodup_nil
    · exact List.nodup_singleton _
  rw [adaptersFor, List.map_append]
  refine List.Nodup.append ?_ collections ?_
  · rw [List.map_append]
    refine wraps.append extractions ?_
    intro name wrapped extracted
    obtain ⟨extraction, known, rfl⟩ := List.mem_map.mp extracted
    obtain ⟨⟨origin, named⟩, _⟩ := isExtraction_of_mem_extractionsFor known
    rw [named] at wrapped
    exact extractName_notMem_wrapsFor stages sides.output origin wrapped
  · intro name earlier collected
    obtain ⟨collection, listed, rfl⟩ := List.mem_map.mp collected
    rw [(isCollection_of_mem_collectionsFor listed).1] at earlier
    exact collectName_notMem stages sides.output sides.input earlier

/-- Extraction stages for different sinks, whose names are free, are all added in order. -/
theorem foldl_addExtraction {files : List (String × String)} {stages : List Stage}
    {sides : PipeSides} (origins : (files.map Prod.snd).Nodup)
    (fresh : ∀ file ∈ files, extractName file.2 ∉ stages.map Stage.name) :
    files.foldl addExtraction (stages, sides) =
      (stages ++ files.map fun file => extractStage file.1 file.2,
        { sides with input := sides.input ++ files.map fun file => extractName file.2 }) := by
  induction files generalizing stages sides with
  | nil => simp
  | cons file rest ih =>
    obtain ⟨own, others⟩ := List.nodup_cons.mp origins
    have ⟨here, later⟩ := List.forall_mem_cons.mp fresh
    have absent : Stage.find? stages (extractStage file.1 file.2).name = none :=
      Stage.find?_eq_none_iff.mpr here
    rw [List.foldl_cons, addExtraction]
    simp only [absent, Option.isNone_none, ↓reduceIte]
    rw [ih others]
    · simp [PipeSides.add, extractStage, Stage.function]
    · intro other member
      rw [List.map_append, List.mem_append, not_or]
      refine ⟨later other member, fun same => own ?_⟩
      rw [← extractName_injective (List.mem_singleton.mp same)]
      exact List.mem_map_of_mem member

namespace Undecorated

variable {stages : List Stage} {sides : PipeSides} (plain : Undecorated stages sides)

include plain

/-- No stage has a name that is kept for adapters. -/
theorem notMem_of_isAdapterName {name : String} (reserved : IsAdapterName name) :
    name ∉ stages.map Stage.name := by
  intro member
  obtain ⟨stage, listed, rfl⟩ := List.mem_map.mp member
  exact plain.unreserved stage listed reserved

theorem addWrap_eq :
    addWrap (stages, sides) = (stages ++ wrapsFor stages sides.output,
      { sides with
        output := (wrapsFor stages sides.output).map Stage.name ++ sides.output }) := by
  have absent : Stage.find? stages wrapName = none :=
    Stage.find?_eq_none_iff.mpr (plain.notMem_of_isAdapterName (.inl rfl))
  unfold addWrap wrapsFor
  simp only [absent, Option.isNone_none, Bool.and_true]
  split
  · rfl
  · simp

/-- The names of all stages are distinct, those of the adapters included. -/
theorem distinct_decorated :
    ((stages ++ adaptersFor stages sides).map Stage.name).Nodup := by
  rw [List.map_append]
  refine plain.distinct.append (distinct_adaptersFor stages sides) ?_
  intro name member other
  obtain ⟨adapter, listed, rfl⟩ := List.mem_map.mp other
  exact plain.notMem_of_isAdapterName (isAdapter_of_mem_adaptersFor listed).1 member

theorem addExtractions_eq (output : List String) :
    addExtractions (stages ++ wrapsFor stages sides.output, { sides with output }) =
      (stages ++ wrapsFor stages sides.output ++ extractionsFor stages sides.input,
        { output, input := sides.input ++
            (extractionsFor stages sides.input).map Stage.name }) := by
  have same : sinkLocations (stages ++ wrapsFor stages sides.output) sides.input =
      sinkLocations stages sides.input := by
    rw [sinkLocations, Stage.filterMap_find?_append plain.sinks, sinkLocations]
  rw [addExtractions, same, foldl_addExtraction (nodup_origins _ _), extractionsFor, List.map_map]
  · rfl
  · intro file _
    rw [List.map_append, List.mem_append, not_or]
    exact ⟨plain.notMem_of_isAdapterName (.inr (.inr ⟨_, rfl⟩)),
      extractName_notMem_wrapsFor stages sides.output file.2⟩

/-- The extraction stages that were added have their labels after those of the sinks. -/
theorem filterMap_extractionLabel? :
    ((sides.input ++ (extractionsFor stages sides.input).map Stage.name).filterMap (Stage.find?
        (stages ++ wrapsFor stages sides.output ++ extractionsFor stages sides.input))).filterMap
      extractionLabel? = labelsFor stages sides.input := by
  have distinct := plain.distinct_decorated
  rw [adaptersFor, ← List.append_assoc, ← List.append_assoc, List.map_append] at distinct
  have extractions : extractionsFor stages sides.input ⊆
      stages ++ wrapsFor stages sides.output ++ extractionsFor stages sides.input :=
    List.subset_append_right _ _
  rw [List.filterMap_append, Stage.filterMap_find? (List.nodup_append.mp distinct).1 extractions,
    List.append_assoc, Stage.filterMap_find?_append plain.sinks, List.filterMap_append, labelsFor,
    extractionsFor, List.filterMap_map, ← List.filterMap_eq_map]
  rfl

theorem addCollection_eq (output : List String) :
    addCollection (stages ++ wrapsFor stages sides.output ++ extractionsFor stages sides.input,
        { output, input := sides.input ++
            (extractionsFor stages sides.input).map Stage.name }) =
      (stages ++ adaptersFor stages sides,
        { output, input := sides.input ++ (extractionsFor stages sides.input).map Stage.name
            ++ (collectionsFor stages sides.input).map Stage.name }) := by
  have absent : Stage.find? (stages ++ wrapsFor stages sides.output
      ++ extractionsFor stages sides.input) collectName = none := by
    rw [Stage.find?_eq_none_iff, List.append_assoc, List.map_append, List.mem_append, not_or]
    exact ⟨plain.notMem_of_isAdapterName (.inr (.inl rfl)),
      collectName_notMem stages sides.output sides.input⟩
  unfold addCollection
  simp only [plain.filterMap_extractionLabel?, absent, Option.isNone_none, Bool.and_true,
    Bool.not_eq_true']
  unfold adaptersFor collectionsFor
  cases (labelsFor stages sides.input).isEmpty with
  | true => simp
  | false => simp [PipeSides.add, collectStage, Stage.function]

/-- **What decorating adds.** -/
theorem decorate_eq :
    decorate stages sides = .ok (stages ++ adaptersFor stages sides,
      { output := (wrapsFor stages sides.output).map Stage.name ++ sides.output
        input := sides.input ++ (extractionsFor stages sides.input).map Stage.name
          ++ (collectionsFor stages sides.input).map Stage.name }) := by
  rw [decorate, checkUniqueNames_ok.mpr plain.distinct, plain.addWrap_eq, plain.addExtractions_eq,
    plain.addCollection_eq]
  rfl

end Undecorated

end WorkflowChain
