import WorkflowChain.Proofs.Pipeline.Decoration
import Mathlib.Data.List.Forall2
import Mathlib.Data.List.Induction

/-! # The adapters that stages require

Which adapters are added to stages without adapters follows from the stages that the sides name,
each in the order of its side and as often as it is named: whether there is a wrap stage from the
kinds of the sources, the extraction stages from the locations that the sinks declare, and the
collection stage from the labels of what the sinks and the new extraction stages extract
(`decorate_undecorated`). Every adapter is given with all its fields, and what a stage declares or
extracts with the entries of its configuration that say so.
-/

namespace WorkflowChain

namespace Configuration

/-- A configuration has a text for a key in the map that it has under `configuration`. -/
def Nests (config : Configuration) (key text : String) : Prop :=
  ∃ inner, config.lookup "configuration" = some (.map inner) ∧
    inner.lookup key = some (.text text)

/-- A configuration gives a text for a key: the one that it has under the key itself or, if it has
nothing there, the one that is nested. -/
inductive Gives (config : Configuration) (key text : String) : Prop where
  | own (found : config.lookup key = some (.text text))
  | nested (absent : config.lookup key = none) (inside : Nests config key text)

end Configuration

namespace Stage

/-- A stage declares the location of a file to be extracted for it. Adapters declare none. -/
def Declares (stage : Stage) (location : String) : Prop :=
  stage.kind ≠ .adapter ∧ Configuration.Gives stage.config "location" location

/-- A stage extracts a file under a label. -/
structure ExtractsAs (stage : Stage) (label : String) : Prop where
  runs : stage.config.lookup "functionType" =
    some (.text "application/vnd.dlite-file2collection")
  labelled : Configuration.Nests stage.config "label" label

/-- The texts that stages have in some respect, in the order of the stages. A stage that has none is
passed over. -/
inductive InOrder (has : Stage → String → Prop) : List Stage → List String → Prop where
  | nil : InOrder has [] []
  | take {stage : Stage} {text : String} {rest : List Stage} {texts : List String}
      (own : has stage text) (later : InOrder has rest texts) :
      InOrder has (stage :: rest) (text :: texts)
  | skip {stage : Stage} {rest : List Stage} {texts : List String}
      (none : ∀ text, ¬has stage text) (later : InOrder has rest texts) :
      InOrder has (stage :: rest) texts

end Stage

/-! ## What stages declare and extract -/

/-- A nested text is read in three steps, each of which may find nothing. -/
theorem Configuration.nests_iff {config : Configuration} {key text : String} :
    Nests config key text ↔
      ((config.lookup "configuration").bind (Value.field? key)).bind Value.text? = some text := by
  simp only [Nests, Option.bind_eq_some_iff, Value.text?_eq_some_iff, Value.field?_eq_some_iff]
  constructor
  · rintro ⟨inner, configured, found⟩
    exact ⟨_, ⟨_, configured, inner, rfl, found⟩, rfl⟩
  · rintro ⟨_, ⟨_, configured, inner, rfl, found⟩, rfl⟩
    exact ⟨inner, configured, found⟩

/-- The text that is read from a configuration is the one that it gives. -/
theorem Configuration.gives_iff {config : Configuration} {key text : String} :
    Gives config key text ↔ text? config key = some text := by
  unfold text?
  constructor
  · rintro (found | ⟨absent, inside⟩)
    · rw [found]
      rfl
    · rw [absent]
      exact nests_iff.mp inside
  · intro read
    split at read
    next value found => exact .own (Value.text?_eq_some_iff.mp read ▸ found)
    next absent => exact .nested absent (nests_iff.mpr read)

namespace Stage

/-- A stage declares the location that is read from its configuration, unless it is an adapter. -/
theorem declares_iff {stage : Stage} {location : String} :
    stage.Declares location ↔ stage.kind ≠ .adapter ∧ stage.location? = some location :=
  and_congr_right' Configuration.gives_iff

/-- A stage extracts a file under the label that is read from its configuration. -/
theorem extractsAs_iff (stage : Stage) (label : String) :
    stage.ExtractsAs label ↔ extractionLabel? stage = some label := by
  unfold extractionLabel?
  have runs : stage.functionType? = some extractFunction ↔
      stage.config.lookup "functionType" = some (.text extractFunction) := by
    simp only [functionType?, Option.bind_eq_some_iff, Value.text?_eq_some_iff, exists_eq_right]
  constructor
  · rintro ⟨function, labelled⟩
    rw [if_pos (runs.mpr function)]
    exact Configuration.nests_iff.mp labelled
  · intro read
    split at read
    next function => exact ⟨runs.mp function, Configuration.nests_iff.mpr read⟩
    next => cases read

/-- The texts that stages have in order are those that are read stage by stage, and no others. -/
theorem inOrder_iff {has : Stage → String → Prop} {text? : Stage → Option String}
    (each : ∀ stage text, has stage text ↔ text? stage = some text) {stages : List Stage}
    {texts : List String} : InOrder has stages texts ↔ texts = stages.filterMap text? := by
  constructor
  · intro listed
    induction listed with
    | nil => rfl
    | take own _ ih => rw [List.filterMap_cons_some ((each _ _).mp own), ih]
    | skip none _ ih =>
      have absent := Option.eq_none_iff_forall_ne_some.mpr fun text found =>
        none text ((each _ text).mpr found)
      rw [List.filterMap_cons_none absent, ih]
  · rintro rfl
    induction stages with
    | nil => exact .nil
    | cons stage rest ih =>
      cases found : text? stage with
      | none =>
        rw [List.filterMap_cons_none found]
        refine .skip (fun text own => ?_) ih
        cases found.symm.trans ((each stage text).mp own)
      | some text =>
        rw [List.filterMap_cons_some found]
        exact .take ((each stage text).mpr found) ih

end Stage

instance (stage : Stage) (location : String) : Decidable (stage.Declares location) :=
  decidable_of_iff _ Stage.declares_iff.symm

/-- Adapters of the three kinds. -/
structure Adapters where
  wraps : List Stage
  extractions : List Stage
  collections : List Stage

namespace Adapters

/-- All adapters, in the order in which they are added. -/
def all (adapters : Adapters) : List Stage :=
  adapters.wraps ++ adapters.extractions ++ adapters.collections

/-- The sides with adapters: wraps come before the sources, all others after the sinks. -/
def around (adapters : Adapters) (sides : PipeSides) : PipeSides where
  output := adapters.wraps.map Stage.name ++ sides.output
  input := sides.input ++ (adapters.extractions ++ adapters.collections).map Stage.name

/-- Adapters are those that sources and sinks require. -/
structure RequiredBy (adapters : Adapters) (sources sinks : List Stage) : Prop where
  /-- All sources are wrapped if one of them runs a function. -/
  wraps : adapters.wraps =
    if ∃ source ∈ sources, source.kind = .conversion ∨ source.kind = .adapter then
      [{ kind := .adapter
         strategy := "function"
         name := "datanode2cuds"
         config := [
          ("configuration",
            .map [("to_cuds", .list (sources.map fun source => .text source.name))]),
          ("functionType", .text "aiidacuds/datanode2cuds")] }]
    else []
  /-- A file is extracted for each location, labelled by the first sink that declares it. -/
  extractions : ∃ locations, Stage.InOrder Stage.Declares sinks locations ∧
    List.Forall₂ (fun location stage =>
      ∃ first, sinks.find? (·.Declares location) = some first ∧
        stage = {
          kind := .adapter
          strategy := "function"
          name := first.name ++ "_file2collection"
          config := [
            ("configuration", .map [("label", .text first.name), ("location", .text location)]),
            ("functionType", .text "application/vnd.dlite-file2collection")] })
      locations.eraseDups adapters.extractions
  /-- All files that are extracted are collected, if there are any. -/
  collections : ∃ labels,
    Stage.InOrder Stage.ExtractsAs (sinks ++ adapters.extractions) labels ∧
    adapters.collections =
      if labels = [] then []
      else [{
        kind := .adapter
        strategy := "function"
        name := "cuds2datanode"
        config := [
          ("configuration", .map [("from_cuds", .list (labels.map .text))]),
          ("functionType", .text "aiidacuds/cuds2datanode")] }]

end Adapters

/-! ## Locations in order -/

/-- The keys that are noted are all keys, in the order in which they come first. -/
theorem map_fst_foldl_noteNew (entries : List (String × String)) :
    (entries.foldl noteNew []).map Prod.fst = (entries.map Prod.fst).eraseDups := by
  induction entries using List.reverseRecOn with
  | nil => rfl
  | append_singleton earlier entry ih =>
    rw [List.foldl_append, List.foldl_cons, List.foldl_nil, List.map_append, List.map_singleton,
      List.eraseDups_append, ← ih, noteNew]
    have noted : (earlier.foldl noteNew []).any (·.1 = entry.1) = true ↔
        entry.1 ∈ earlier.map Prod.fst := by
      rw [← List.mem_eraseDups, ← ih]
      simp
    by_cases known : entry.1 ∈ earlier.map Prod.fst
    · rw [if_pos (noted.mpr known), List.removeAll, List.filter_cons_of_neg (by simpa using known),
        List.filter_nil]
      exact (List.append_nil _).symm
    · rw [if_neg (mt noted.mp known), List.map_append, List.removeAll,
        List.filter_cons_of_pos (by simpa using known), List.filter_nil]
      rfl

theorem Stage.declares_iff_declaration? (stage : Stage) (location : String) :
    stage.Declares location ↔ stage.declaration?.map Prod.fst = some location := by
  rw [declares_iff, declaration?]
  by_cases adapter : stage.kind = .adapter
  · simp [adapter]
  · simp [adapter, Function.comp_def]

/-- A location is looked up with the first sink that declares it. -/
theorem lookup_declaration? {sinks : List Stage} {location origin : String} :
    (sinks.filterMap Stage.declaration?).lookup location = some origin ↔
      ∃ first, sinks.find? (·.Declares location) = some first ∧ first.name = origin := by
  induction sinks with
  | nil => simp
  | cons sink rest ih =>
    cases declaration : sink.declaration? with
    | none =>
      have other : ¬sink.Declares location := by
        rw [Stage.declares_iff_declaration?, declaration]
        simp
      rw [List.filterMap_cons_none declaration, List.find?_cons_of_neg (by simpa using other), ih]
    | some file =>
      obtain ⟨known, name⟩ := file
      have declares : sink.Declares location ↔ location = known := by
        rw [Stage.declares_iff_declaration?, declaration, Option.map_some, Option.some_inj, eq_comm]
      rw [List.filterMap_cons_some declaration, Table.lookup_cons]
      by_cases same : location = known
      · rw [if_pos same, List.find?_cons_of_pos (by simpa using declares.mpr same),
          ← Stage.name_of_declaration? declaration]
        simp
      · rw [if_neg same, List.find?_cons_of_neg (by simpa using mt declares.mp same), ih]

/-! ## Stages that are named -/

/-- Names of stages stand for a list of stages. -/
theorem exists_named {stages : List Stage} {names : List String}
    (known : names ⊆ stages.map Stage.name) :
    ∃ named ⊆ stages, named.map Stage.name = names := by
  induction names with
  | nil => exact ⟨[], List.nil_subset _, rfl⟩
  | cons name rest ih =>
    have ⟨here, later⟩ := List.cons_subset.mp known
    obtain ⟨stage, member, rfl⟩ := List.mem_map.mp here
    obtain ⟨others, listed, rfl⟩ := ih later
    exact ⟨stage :: others, List.cons_subset.mpr ⟨member, listed⟩, rfl⟩

section Named

variable {stages sources sinks : List Stage} (distinct : (stages.map Stage.name).Nodup)

include distinct

/-- Sources are wrapped under their names if one of them runs a function. -/
theorem wrapsFor_named (known : sources ⊆ stages) :
    wrapsFor stages (sources.map Stage.name) =
      if ∃ source ∈ sources, source.kind = .conversion ∨ source.kind = .adapter then
        [wrapStage (sources.map Stage.name)]
      else [] := by
  have function : ∀ kind : StageKind, kind.isFunction = true ↔
      kind = .conversion ∨ kind = .adapter := by
    intro kind
    cases kind <;> decide
  rw [wrapsFor, Stage.filterMap_find? distinct known]
  simp only [List.any_eq_true, function]

variable (known : sinks ⊆ stages)

include known

theorem sinkLocations_named :
    sinkLocations stages (sinks.map Stage.name) =
      (sinks.filterMap Stage.declaration?).foldl noteNew [] := by
  rw [sinkLocations_eq, declarations, Stage.filterMap_find? distinct known]

/-- Files are extracted for the locations that sinks declare, in the order in which these come
first. -/
theorem extractionsFor_named :
    ∃ locations, Stage.InOrder Stage.Declares sinks locations ∧
      List.Forall₂ (fun location stage =>
        ∃ first, sinks.find? (·.Declares location) = some first ∧
          stage = extractStage location first.name)
        locations.eraseDups (extractionsFor stages (sinks.map Stage.name)) := by
  refine ⟨(sinks.filterMap Stage.declaration?).map Prod.fst, ?_, ?_⟩
  · rw [List.map_filterMap]
    exact (Stage.inOrder_iff Stage.declares_iff_declaration?).mpr rfl
  rw [← map_fst_foldl_noteNew, ← sinkLocations_named distinct known, extractionsFor,
    List.forall₂_map_left_iff, List.forall₂_map_right_iff, List.forall₂_same]
  rintro ⟨location, origin⟩ member
  have first := mem_sinkLocations.mp member
  rw [declarations, Stage.filterMap_find? distinct known, lookup_declaration?] at first
  obtain ⟨sink, found, named⟩ := first
  exact ⟨sink, found, by rw [named]⟩

/-- The labels to be collected are those of the sinks and then those of the new extraction stages.
-/
theorem labelsFor_named :
    labelsFor stages (sinks.map Stage.name) =
      (sinks ++ extractionsFor stages (sinks.map Stage.name)).filterMap extractionLabel? := by
  rw [labelsFor, Stage.filterMap_find? distinct known, List.filterMap_append, extractionsFor,
    List.filterMap_map, ← List.filterMap_eq_map]
  rfl

end Named

/-! ## Decorating -/

/-- **The adapters that stages require.** Stages without adapters stay as they are, and after them
come the adapters that the named sources and sinks require. -/
theorem decorate_undecorated {stages : List Stage} {sides : PipeSides}
    (plain : Undecorated stages sides) :
    ∃ sources sinks adapters, sources ⊆ stages ∧ sources.map Stage.name = sides.output ∧
      sinks ⊆ stages ∧ sinks.map Stage.name = sides.input ∧
      Adapters.RequiredBy adapters sources sinks ∧
      decorate stages sides = .ok (stages ++ adapters.all, adapters.around sides) := by
  obtain ⟨sources, loaded, sourceNames⟩ := exists_named plain.sources
  obtain ⟨sinks, handled, sinkNames⟩ := exists_named plain.sinks
  let adapters : Adapters :=
    ⟨wrapsFor stages sides.output, extractionsFor stages sides.input,
      collectionsFor stages sides.input⟩
  refine ⟨sources, sinks, adapters, loaded, sourceNames, handled, sinkNames, ?_, ?_⟩
  · constructor
    case wraps =>
      have wraps := wrapsFor_named plain.distinct loaded
      rw [sourceNames] at wraps
      refine wraps.trans ?_
      rw [← sourceNames, wrapStage, Value.texts, List.map_map]
      rfl
    case extractions =>
      have each := extractionsFor_named plain.distinct handled
      rwa [sinkNames] at each
    case collections =>
      have labels := labelsFor_named plain.distinct handled
      rw [sinkNames] at labels
      refine ⟨_, (Stage.inOrder_iff Stage.extractsAs_iff).mpr rfl, ?_⟩
      rw [← labels]
      simp only [adapters, collectionsFor, List.isEmpty_iff]
      rfl
  · rw [plain.decorate_eq, Adapters.around, List.map_append, ← List.append_assoc]
    rfl

/-- Stages of which two declare one file, and one extracts a file itself. -/
def sharedFile : List Stage :=
  [.function .conversion "convert" "aiidacuds/datanode2file" [],
    .ofTemplate ⟨"function", [("location", .text "part.inp")]⟩ "mesh",
    .ofTemplate ⟨"function", [("configuration", .map [("location", .text "part.inp")])]⟩ "copy",
    .ofTemplate ⟨"filter", [("location", .text "field.inp")]⟩ "field",
    .function .conversion "trace" "application/vnd.dlite-file2collection" [("label", .text "log")]]

/-- The shared file is extracted for the first sink that declares it, also if that is named again. -/
theorem decorate_undecorated_sharedFile :
    Undecorated sharedFile ⟨["convert"], ["mesh", "copy", "trace", "field", "mesh"]⟩ ∧
    ∃ sources sinks adapters, sources.map Stage.name = ["convert"] ∧
      sinks.map Stage.name = ["mesh", "copy", "trace", "field", "mesh"] ∧
      Adapters.RequiredBy adapters sources sinks ∧
      adapters.all = [
        ⟨.adapter, "function", "datanode2cuds", [
          ("configuration", .map [("to_cuds", .list [.text "convert"])]),
          ("functionType", .text "aiidacuds/datanode2cuds")]⟩,
        ⟨.adapter, "function", "mesh_file2collection", [
          ("configuration", .map [("label", .text "mesh"), ("location", .text "part.inp")]),
          ("functionType", .text "application/vnd.dlite-file2collection")]⟩,
        ⟨.adapter, "function", "field_file2collection", [
          ("configuration", .map [("label", .text "field"), ("location", .text "field.inp")]),
          ("functionType", .text "application/vnd.dlite-file2collection")]⟩,
        ⟨.adapter, "function", "cuds2datanode", [
          ("configuration", .map [("from_cuds", .list [.text "log", .text "mesh", .text "field"])]),
          ("functionType", .text "aiidacuds/cuds2datanode")]⟩] ∧
      decorate sharedFile ⟨["convert"], ["mesh", "copy", "trace", "field", "mesh"]⟩ =
        .ok (sharedFile ++ adapters.all,
          ⟨["datanode2cuds", "convert"], ["mesh", "copy", "trace", "field", "mesh",
            "mesh_file2collection", "field_file2collection", "cuds2datanode"]⟩) := by
  have plain : Undecorated sharedFile ⟨["convert"], ["mesh", "copy", "trace", "field", "mesh"]⟩ := by
    constructor
    case distinct => decide
    case unreserved =>
      have each : ∀ stage ∈ sharedFile, stage.name ≠ wrapName ∧ stage.name ≠ collectName ∧
          stage.name.toList.getLast? ≠ some 'n' := by
        decide
      rintro stage member (wrap | collection | ⟨origin, extraction⟩)
      · exact (each stage member).1 wrap
      · exact (each stage member).2.1 collection
      · exact extractName_ne (each stage member).2.2 extraction.symm
    case sources => decide
    case sinks => decide
  obtain ⟨sources, sinks, adapters, _, sourceNames, _, sinkNames, required, decorated⟩ :=
    decorate_undecorated plain
  obtain ⟨added, run, literal⟩ : ∃ added,
      decorate sharedFile ⟨["convert"], ["mesh", "copy", "trace", "field", "mesh"]⟩ =
        .ok (sharedFile ++ added,
          ⟨["datanode2cuds", "convert"], ["mesh", "copy", "trace", "field", "mesh",
            "mesh_file2collection", "field_file2collection", "cuds2datanode"]⟩) ∧
      added = [wrapStage ["convert"], extractStage "part.inp" "mesh",
        extractStage "field.inp" "field", collectStage ["log", "mesh", "field"]] := ⟨_, rfl, rfl⟩
  have same : adapters.all = added :=
    List.append_cancel_left (congrArg Prod.fst (Except.ok.inj (decorated.symm.trans run)))
  exact ⟨plain, sources, sinks, adapters, sourceNames, sinkNames, required, same.trans literal,
    same ▸ run⟩

end WorkflowChain
