import WorkflowChain.Proofs.Pipeline.Decoration
import WorkflowChain.Proofs.Success

/-! # Decorating twice

Adapters are added after a look at what is there: at the stages that the sides name, some of which
may just have been added, and at the names of all stages. All that is added comes last, has a new
name and is an adapter (`Grows`). So a name that stood for a stage stands for it for good, and no
sink declares a location that was not declared before. Each of the three additions leaves nothing
for it to do, and the later ones leave it nothing to do either: what is decorated stays as it is
when it is decorated again (`decorate_decorated`).
-/

namespace WorkflowChain

/-! ## Growing by adapters -/

/-- Stages and sides grow by adapters: these come last, under names that no stage has, and the names
that are new among the sinks are not those of stages that were there. -/
structure Grows (before after : Sided) : Prop where
  stages : ∃ added, after.1 = before.1 ++ added ∧ ∀ stage ∈ added, stage.kind = .adapter
  sinks : ∃ names, after.2.input = before.2.input ++ names ∧
    ∀ name ∈ names, name ∉ before.1.map Stage.name
  distinct : (before.1.map Stage.name).Nodup → (after.1.map Stage.name).Nodup

namespace Grows

theorem refl (sided : Sided) : Grows sided sided :=
  ⟨⟨[], (List.append_nil _).symm, nofun⟩, ⟨[], (List.append_nil _).symm, nofun⟩, id⟩

/-- One adapter is added, and may be named as a sink. -/
theorem adapter {stages : List Stage} {adapter : Stage} (kind : adapter.kind = .adapter)
    (absent : Stage.find? stages adapter.name = none) {sides others : PipeSides}
    (sinks : others.input = sides.input ∨ others.input = sides.input ++ [adapter.name]) :
    Grows (stages, sides) (stages ++ [adapter], others) := by
  have fresh := Stage.find?_eq_none_iff.mp absent
  constructor
  case stages => exact ⟨[adapter], rfl, by simpa using kind⟩
  case sinks =>
    rcases sinks with same | added
    · exact ⟨[], by simp [same], nofun⟩
    · exact ⟨[adapter.name], added, by simpa using fresh⟩
  case distinct =>
    intro distinct
    rw [List.map_append, List.map_singleton]
    exact distinct.append (List.nodup_singleton _) (List.disjoint_singleton.mpr fresh)

variable {before after : Sided} (grows : Grows before after)

include grows

theorem names_subset : before.1.map Stage.name ⊆ after.1.map Stage.name := by
  obtain ⟨added, same, _⟩ := grows.stages
  rw [same, List.map_append]
  exact List.subset_append_left _ _

theorem trans {last : Sided} (later : Grows after last) : Grows before last := by
  obtain ⟨added, stages, adapters⟩ := grows.stages
  obtain ⟨more, rest, others⟩ := later.stages
  obtain ⟨names, sinks, fresh⟩ := grows.sinks
  obtain ⟨further, ends, unknown⟩ := later.sinks
  constructor
  case stages =>
    refine ⟨added ++ more, by rw [rest, stages, List.append_assoc], ?_⟩
    exact List.forall_mem_append.mpr ⟨adapters, others⟩
  case sinks =>
    refine ⟨names ++ further, by rw [ends, sinks, List.append_assoc], ?_⟩
    refine List.forall_mem_append.mpr ⟨fresh, fun name member known => ?_⟩
    exact unknown name member (grows.names_subset known)
  case distinct => exact fun distinct => later.distinct (grows.distinct distinct)

/-- A name that stands for a stage goes on standing for it. -/
theorem find?_eq {name : String} (known : name ∈ before.1.map Stage.name) :
    Stage.find? after.1 name = Stage.find? before.1 name := by
  obtain ⟨added, same, _⟩ := grows.stages
  rw [same]
  exact Stage.find?_append_of_mem known added

/-- Names that were known before still have the same stages. -/
theorem filterMap_find?_eq {names : List String} (known : names ⊆ before.1.map Stage.name) :
    names.filterMap (Stage.find? after.1) = names.filterMap (Stage.find? before.1) :=
  List.filterMap_congr fun _ member => grows.find?_eq (known member)

/-- What stands for a new name is an adapter, which declares nothing. -/
theorem declaration?_of_fresh {name : String} (fresh : name ∉ before.1.map Stage.name) :
    (Stage.find? after.1 name).bind Stage.declaration? = none := by
  cases found : Stage.find? after.1 name with
  | none => rfl
  | some stage =>
    obtain ⟨added, same, adapters⟩ := grows.stages
    obtain ⟨member, named⟩ := Stage.mem_of_find? found
    rw [same] at member
    rcases List.mem_append.mp member with known | new
    · exact absurd (List.mem_map.mpr ⟨stage, known, named⟩) fresh
    · simp [Stage.declaration?, adapters stage new]

/-- **Nothing new is declared.** -/
theorem sinkLocations_eq :
    sinkLocations after.1 after.2.input = sinkLocations before.1 before.2.input := by
  obtain ⟨names, sinks, fresh⟩ := grows.sinks
  have new : names.filterMap (fun name => (Stage.find? after.1 name).bind Stage.declaration?) =
      [] :=
    List.filterMap_eq_nil_iff.mpr fun name member => grows.declaration?_of_fresh (fresh name member)
  have old : ∀ name ∈ before.2.input, (Stage.find? after.1 name).bind Stage.declaration? =
      (Stage.find? before.1 name).bind Stage.declaration? := by
    intro name _
    by_cases known : name ∈ before.1.map Stage.name
    · rw [grows.find?_eq known]
    · rw [grows.declaration?_of_fresh known, Stage.find?_eq_none_iff.mpr known, Option.bind_none]
  rw [WorkflowChain.sinkLocations_eq, WorkflowChain.sinkLocations_eq, declarations, declarations,
    sinks, List.filterMap_filterMap, List.filterMap_filterMap, List.filterMap_append, new,
    List.append_nil, List.filterMap_congr old]

end Grows

/-- Wrapping only adds a stage. -/
theorem grows_addWrap (sided : Sided) : Grows sided (addWrap sided) := by
  obtain ⟨stages, sides⟩ := sided
  unfold addWrap
  dsimp only
  split
  next missing =>
    rw [Bool.and_eq_true, Option.isNone_iff_eq_none] at missing
    exact .adapter rfl missing.2 (.inl rfl)
  · exact .refl _

theorem grows_addExtraction (sided : Sided) (file : String × String) :
    Grows sided (addExtraction sided file) := by
  obtain ⟨stages, sides⟩ := sided
  unfold addExtraction
  dsimp only
  split
  next missing => exact .adapter rfl (Option.isNone_iff_eq_none.mp missing) (.inr rfl)
  · exact .refl _

theorem grows_foldl_addExtraction (files : List (String × String)) (sided : Sided) :
    Grows sided (files.foldl addExtraction sided) := by
  induction files generalizing sided with
  | nil => exact .refl sided
  | cons file rest ih => exact (grows_addExtraction sided file).trans (ih _)

theorem grows_addExtractions (sided : Sided) : Grows sided (addExtractions sided) :=
  grows_foldl_addExtraction _ sided

theorem grows_addCollection (sided : Sided) : Grows sided (addCollection sided) := by
  obtain ⟨stages, sides⟩ := sided
  unfold addCollection
  dsimp only
  split
  next missing =>
    rw [Bool.and_eq_true, Option.isNone_iff_eq_none] at missing
    exact .adapter rfl missing.2 (.inr rfl)
  · exact .refl _

/-! ## Wraps -/

/-- There is a wrap stage, or no source needs one. -/
def Wrapped (sided : Sided) : Prop :=
  wrapName ∈ sided.1.map Stage.name ∨
    ∀ stage ∈ sided.2.output.filterMap (Stage.find? sided.1), stage.kind.isFunction = false

/-- What is wrapped is not wrapped again. -/
theorem addWrap_of_wrapped {sided : Sided} (wrapped : Wrapped sided) : addWrap sided = sided := by
  obtain ⟨stages, sides⟩ := sided
  unfold addWrap
  apply if_neg
  rw [Bool.and_eq_true, Option.isNone_iff_eq_none, Stage.find?_eq_none_iff, List.any_eq_true]
  rintro ⟨⟨source, member, function⟩, absent⟩
  rcases wrapped with present | plain
  · exact absent present
  · rw [plain source member] at function
    cases function

/-- After wrapping there is nothing left to wrap. -/
theorem wrapped_addWrap (sided : Sided) : Wrapped (addWrap sided) := by
  obtain ⟨stages, sides⟩ := sided
  unfold addWrap
  dsimp only
  split
  · left
    simp [wrapStage, Stage.function]
  next settled =>
    rw [Bool.and_eq_true, Option.isNone_iff_eq_none, Stage.find?_eq_none_iff] at settled
    by_cases present : wrapName ∈ stages.map Stage.name
    · exact .inl present
    · right
      intro source member
      by_contra function
      rw [Bool.not_eq_false] at function
      exact settled ⟨List.any_eq_true.mpr ⟨source, member, function⟩, present⟩

/-- The sources are still names of stages when they are wrapped. -/
theorem sources_addWrap {sided : Sided} (known : sided.2.output ⊆ sided.1.map Stage.name) :
    (addWrap sided).2.output ⊆ (addWrap sided).1.map Stage.name := by
  have grown := List.Subset.trans known (grows_addWrap sided).names_subset
  obtain ⟨stages, sides⟩ := sided
  unfold addWrap at grown ⊢
  dsimp only at grown ⊢
  split at grown
  next missing =>
    rw [if_pos missing]
    refine List.cons_subset.mpr ⟨?_, grown⟩
    simp [wrapStage, Stage.function]
  next settled =>
    rw [if_neg settled]
    exact known

/-- As the sources stand for the same stages, later adapters do not ask for a wrap stage. -/
theorem Wrapped.grow {before after : Sided} (wrapped : Wrapped before) (grows : Grows before after)
    (sources : after.2.output = before.2.output)
    (known : before.2.output ⊆ before.1.map Stage.name) : Wrapped after := by
  rcases wrapped with present | plain
  · exact .inl (grows.names_subset present)
  · right
    rw [sources, grows.filterMap_find?_eq known]
    exact plain

/-! ## Extractions -/

/-- There is an extraction stage for each location that a sink declares. -/
def Extracted (sided : Sided) : Prop :=
  ∀ file ∈ sinkLocations sided.1 sided.2.input, extractName file.2 ∈ sided.1.map Stage.name

theorem addExtraction_of_mem {sided : Sided} {file : String × String}
    (present : extractName file.2 ∈ sided.1.map Stage.name) : addExtraction sided file = sided := by
  obtain ⟨stages, sides⟩ := sided
  obtain ⟨stage, found⟩ := Stage.exists_find? present
  have known : Stage.find? stages (extractStage file.1 file.2).name = some stage := found
  simp [addExtraction, known]

theorem mem_addExtraction (sided : Sided) (file : String × String) :
    extractName file.2 ∈ (addExtraction sided file).1.map Stage.name := by
  obtain ⟨stages, sides⟩ := sided
  unfold addExtraction
  dsimp only
  split
  · simp [extractStage, Stage.function]
  next present =>
    rw [Option.isNone_iff_eq_none, Stage.find?_eq_none_iff, not_not] at present
    exact present

theorem foldl_addExtraction_of_mem {files : List (String × String)} {sided : Sided}
    (present : ∀ file ∈ files, extractName file.2 ∈ sided.1.map Stage.name) :
    files.foldl addExtraction sided = sided := by
  induction files with
  | nil => rfl
  | cons file rest ih =>
    have ⟨own, others⟩ := List.forall_mem_cons.mp present
    rw [List.foldl_cons, addExtraction_of_mem own, ih others]

theorem mem_foldl_addExtraction (files : List (String × String)) (sided : Sided) :
    ∀ file ∈ files, extractName file.2 ∈ (files.foldl addExtraction sided).1.map Stage.name := by
  induction files generalizing sided with
  | nil => nofun
  | cons file rest ih =>
    rw [List.foldl_cons]
    refine List.forall_mem_cons.mpr ⟨?_, ih _⟩
    exact (grows_foldl_addExtraction rest _).names_subset (mem_addExtraction sided file)

theorem sources_foldl_addExtraction (files : List (String × String)) (sided : Sided) :
    (files.foldl addExtraction sided).2.output = sided.2.output := by
  induction files generalizing sided with
  | nil => rfl
  | cons file rest ih =>
    rw [List.foldl_cons, ih]
    unfold addExtraction
    dsimp only
    split <;> rfl

theorem addExtractions_of_extracted {sided : Sided} (extracted : Extracted sided) :
    addExtractions sided = sided :=
  foldl_addExtraction_of_mem extracted

/-- Stages that are added leave no new file to extract, as adapters declare no locations. -/
theorem Extracted.grow {before after : Sided} (extracted : Extracted before)
    (grows : Grows before after) : Extracted after := by
  intro file member
  rw [grows.sinkLocations_eq] at member
  exact grows.names_subset (extracted file member)

/-- After extracting all files there is nothing left to extract. -/
theorem extracted_addExtractions (sided : Sided) : Extracted (addExtractions sided) := by
  intro file member
  rw [(grows_addExtractions sided).sinkLocations_eq] at member
  exact mem_foldl_addExtraction _ sided file member

/-! ## Collections -/

/-- There is a collection stage, or no sink extracts a file. -/
def Collected (sided : Sided) : Prop :=
  collectName ∈ sided.1.map Stage.name ∨
    (sided.2.input.filterMap (Stage.find? sided.1)).filterMap extractionLabel? = []

theorem addCollection_of_collected {sided : Sided} (collected : Collected sided) :
    addCollection sided = sided := by
  obtain ⟨stages, sides⟩ := sided
  unfold addCollection
  apply if_neg
  rw [Bool.and_eq_true, Option.isNone_iff_eq_none, Stage.find?_eq_none_iff, Bool.not_eq_true',
    List.isEmpty_eq_false_iff]
  rintro ⟨extracts, absent⟩
  rcases collected with present | nothing
  · exact absent present
  · exact extracts nothing

theorem collected_addCollection (sided : Sided) : Collected (addCollection sided) := by
  obtain ⟨stages, sides⟩ := sided
  unfold addCollection
  dsimp only
  split
  · left
    simp [collectStage, Stage.function]
  next settled =>
    rw [Bool.and_eq_true, Option.isNone_iff_eq_none, Stage.find?_eq_none_iff, Bool.not_eq_true',
      List.isEmpty_eq_false_iff] at settled
    by_cases present : collectName ∈ stages.map Stage.name
    · exact .inl present
    · right
      simpa [present] using settled

theorem sources_addCollection (sided : Sided) :
    (addCollection sided).2.output = sided.2.output := by
  obtain ⟨stages, sides⟩ := sided
  unfold addCollection
  dsimp only
  split <;> rfl

/-! ## Decorated stages -/

/-- Decorating is refused for a repeated name only, and else goes through its three phases. -/
theorem decorate_ok {stages : List Stage} {sides : PipeSides} {decorated : Sided} :
    decorate stages sides = .ok decorated ↔ (stages.map Stage.name).Nodup ∧
      decorated = addCollection (addExtractions (addWrap (stages, sides))) := by
  rw [decorate, bind_ok]
  constructor
  · rintro ⟨_, accepted, same⟩
    exact ⟨checkUniqueNames_ok.mp accepted, (Except.ok.inj same).symm⟩
  · rintro ⟨distinct, rfl⟩
    exact ⟨(), checkUniqueNames_ok.mpr distinct, rfl⟩

/-- **Decorating twice.** What is decorated is not changed by decorating it again, whatever it had of
the adapters before. The sources have to be stages: the name of an adapter among them would stand
for a function only afterwards. -/
theorem decorate_decorated {stages decorated : List Stage} {sides others : PipeSides}
    (sources : sides.output ⊆ stages.map Stage.name)
    (once : decorate stages sides = .ok (decorated, others)) :
    decorate decorated others = .ok (decorated, others) := by
  obtain ⟨distinct, same⟩ := decorate_ok.mp once
  have first := grows_addWrap (stages, sides)
  have wrapped := wrapped_addWrap (stages, sides)
  have known : (addWrap (stages, sides)).2.output ⊆ (addWrap (stages, sides)).1.map Stage.name :=
    sources_addWrap sources
  have second := grows_addExtractions (addWrap (stages, sides))
  have third := grows_addCollection (addExtractions (addWrap (stages, sides)))
  -- Only wrap stages become sources.
  have kept : (addCollection (addExtractions (addWrap (stages, sides)))).2.output =
      (addWrap (stages, sides)).2.output := by
    rw [sources_addCollection, addExtractions, sources_foldl_addExtraction]
  have settled := wrapped.grow (second.trans third) kept known
  have extracted := (extracted_addExtractions (addWrap (stages, sides))).grow third
  have collected := collected_addCollection (addExtractions (addWrap (stages, sides)))
  have unique := (first.trans (second.trans third)).distinct distinct
  rw [← same] at settled extracted collected unique
  refine decorate_ok.mpr ⟨unique, ?_⟩
  rw [addWrap_of_wrapped settled, addExtractions_of_extracted extracted,
    addCollection_of_collected collected]

/-- Stages of which one has its extraction stage already and another extracts a file itself. -/
def partlyDecorated : List Stage :=
  [.function .conversion "convert" "aiidacuds/datanode2file" [],
    .ofTemplate ⟨"function", [("location", .text "mesh.inp")]⟩ "mesh",
    extractStage "mesh.inp" "mesh",
    .ofTemplate ⟨"function", [("location", .text "field.inp")]⟩ "field",
    .function .conversion "own" extractFunction [("label", .text "log")]]

/-- They lack three adapters, and nothing when these are added. -/
theorem decorate_decorated_partly :
    ∃ decorated sides,
      decorate partlyDecorated ⟨["convert"], ["mesh", "mesh_file2collection", "field", "own"]⟩ =
        .ok (decorated, sides) ∧
      decorated = partlyDecorated ++ [wrapStage ["convert"], extractStage "field.inp" "field",
        collectStage ["mesh", "log", "field"]] ∧
      decorate decorated sides = .ok (decorated, sides) := by
  obtain ⟨decorated, sides, once, added⟩ : ∃ decorated sides,
      decorate partlyDecorated ⟨["convert"], ["mesh", "mesh_file2collection", "field", "own"]⟩ =
        .ok (decorated, sides) ∧
      decorated = partlyDecorated ++ [wrapStage ["convert"], extractStage "field.inp" "field",
        collectStage ["mesh", "log", "field"]] := ⟨_, _, rfl, rfl⟩
  have sources : ["convert"] ⊆ partlyDecorated.map Stage.name := by decide
  exact ⟨decorated, sides, once, added, decorate_decorated sources once⟩

end WorkflowChain
