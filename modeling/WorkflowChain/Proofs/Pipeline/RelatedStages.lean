import WorkflowChain.Proofs.Alike
import WorkflowChain.Proofs.Pipeline.Decoration

/-! # Decorating related stages

Decorating reads little of a stage: its name, its kind, the location that it declares and the label
of the file that it extracts. If two lists of stages are related stage by stage, by a relation that
keeps all of this, then the same adapters are added to both (`decorate_alike`).
-/

namespace WorkflowChain

/-- Related stages are the same to decorating, and adapters are related to themselves. -/
structure ReadAlike (related : Stage → Stage → Prop) : Prop where
  name : ∀ stage other, related stage other → stage.name = other.name
  kind : ∀ stage other, related stage other → stage.kind = other.kind
  location : ∀ stage other, related stage other → stage.location? = other.location?
  label : ∀ stage other, related stage other → extractionLabel? stage = extractionLabel? other
  adapter : ∀ stage, IsAdapterName stage.name → related stage stage

/-- The same sides name related stages. -/
structure Sided.Alike (related : Stage → Stage → Prop) (sided other : Sided) : Prop where
  stages : List.Forall₂ related sided.1 other.1
  sides : sided.2 = other.2

namespace ReadAlike

variable {related : Stage → Stage → Prop} (alike : ReadAlike related)

include alike

section Stages

variable {stages others : List Stage} (each : List.Forall₂ related stages others)

include each

/-- Related stages have the same names, in the same order. -/
theorem map_name_eq : stages.map Stage.name = others.map Stage.name := by
  induction each with
  | nil => rfl
  | cons own _ ih => rw [List.map_cons, List.map_cons, alike.name _ _ own, ih]

/-- Under one name there are related stages, or none. -/
theorem find?_related (name : String) :
    Option.Rel related (Stage.find? stages name) (Stage.find? others name) := by
  induction each with
  | nil => exact .none
  | @cons stage other _ _ own _ ih =>
    have same := alike.name _ _ own
    unfold Stage.find? at ih ⊢
    rw [List.find?_cons, List.find?_cons, ← same]
    by_cases named : stage.name = name
    · simpa [named] using own
    · simpa [named] using ih

theorem isNone_find?_eq (name : String) :
    (Stage.find? stages name).isNone = (Stage.find? others name).isNone := by
  rw [Bool.eq_iff_iff, Option.isNone_iff_eq_none, Option.isNone_iff_eq_none,
    Stage.find?_eq_none_iff, Stage.find?_eq_none_iff, alike.map_name_eq each]

theorem found_related (names : List String) :
    List.Forall₂ related (names.filterMap (Stage.find? stages))
      (names.filterMap (Stage.find? others)) := by
  refine List.rel_filterMap ?_ (List.forall₂_same.mpr fun name _ => Eq.refl name)
  rintro name _ rfl
  exact alike.find?_related each name

omit alike in

/-- What does not tell related stages apart is the same of all of them. -/
theorem filterMap_eq {α : Type} {view : Stage → Option α}
    (same : ∀ stage other, related stage other → view stage = view other) :
    stages.filterMap view = others.filterMap view := by
  induction each with
  | nil => rfl
  | cons own _ ih => rw [List.filterMap_cons, List.filterMap_cons, same _ _ own, ih]

theorem any_isFunction_eq :
    stages.any (·.kind.isFunction) = others.any (·.kind.isFunction) := by
  induction each with
  | nil => rfl
  | cons own _ ih => rw [List.any_cons, List.any_cons, alike.kind _ _ own, ih]

/-- The sinks declare the same locations. -/
theorem sinkLocations_eq (sinks : List String) :
    sinkLocations stages sinks = sinkLocations others sinks := by
  have declared : ∀ stage other, related stage other →
      stage.declaration? = other.declaration? := by
    intro stage other own
    unfold Stage.declaration?
    rw [alike.kind _ _ own, alike.location _ _ own, alike.name _ _ own]
  rw [WorkflowChain.sinkLocations_eq, WorkflowChain.sinkLocations_eq, declarations, declarations,
    filterMap_eq (alike.found_related each sinks) declared]

/-- An adapter is related to itself, so it can be added to both lists. -/
theorem append_adapter {adapter : Stage} (reserved : IsAdapterName adapter.name) :
    List.Forall₂ related (stages ++ [adapter]) (others ++ [adapter]) :=
  List.rel_append each (.cons (alike.adapter adapter reserved) .nil)

theorem checkUniqueNames_eq : checkUniqueNames stages = checkUniqueNames others := by
  unfold checkUniqueNames
  rw [alike.map_name_eq each]

end Stages

section Sided

variable {sided other : Sided} (same : sided.Alike related other)

include same

/-- Both lists get the same wrap stage, or neither gets one. -/
theorem addWrap_alike : Sided.Alike related (addWrap sided) (addWrap other) := by
  obtain ⟨stages, sides⟩ := sided
  obtain ⟨others, _⟩ := other
  obtain ⟨each, rfl⟩ := same
  unfold addWrap
  dsimp only at each ⊢
  rw [alike.any_isFunction_eq (alike.found_related each sides.output), alike.isNone_find?_eq each]
  split
  · exact ⟨alike.append_adapter each (.inl rfl), rfl⟩
  · exact ⟨each, rfl⟩

theorem addExtraction_alike (file : String × String) :
    Sided.Alike related (addExtraction sided file) (addExtraction other file) := by
  obtain ⟨stages, sides⟩ := sided
  obtain ⟨others, _⟩ := other
  obtain ⟨each, rfl⟩ := same
  unfold addExtraction
  dsimp only at each ⊢
  rw [alike.isNone_find?_eq each]
  split
  · exact ⟨alike.append_adapter each (.inr (.inr ⟨_, rfl⟩)), rfl⟩
  · exact ⟨each, rfl⟩

omit same in
theorem foldl_addExtraction_alike (files : List (String × String)) {sided other : Sided}
    (same : sided.Alike related other) :
    Sided.Alike related (files.foldl addExtraction sided) (files.foldl addExtraction other) := by
  induction files generalizing sided other with
  | nil => exact same
  | cons file rest ih => exact ih (alike.addExtraction_alike same file)

theorem addExtractions_alike : Sided.Alike related (addExtractions sided) (addExtractions other) := by
  have locations := alike.sinkLocations_eq same.stages sided.2.input
  unfold addExtractions
  dsimp only
  rw [locations, same.sides]
  exact alike.foldl_addExtraction_alike _ ⟨same.stages, same.sides ▸ rfl⟩

theorem addCollection_alike : Sided.Alike related (addCollection sided) (addCollection other) := by
  obtain ⟨stages, sides⟩ := sided
  obtain ⟨others, _⟩ := other
  obtain ⟨each, rfl⟩ := same
  unfold addCollection
  dsimp only at each ⊢
  rw [filterMap_eq (alike.found_related each sides.input) alike.label, alike.isNone_find?_eq each]
  split
  · exact ⟨alike.append_adapter each (.inr (.inl rfl)), rfl⟩
  · exact ⟨each, rfl⟩

end Sided

/-- **Decorating related stages** adds the same adapters, or fails for the same reason. -/
theorem decorate_alike {stages others : List Stage} (each : List.Forall₂ related stages others)
    (sides : PipeSides) :
    RunsAlike Eq (Sided.Alike related) (decorate stages sides) (decorate others sides) := by
  unfold decorate
  rw [alike.checkUniqueNames_eq each]
  refine (RunsAlike.refl (fun _ => rfl) _).bind_eq fun _ => .ok ?_
  have start : Sided.Alike related (stages, sides) (others, sides) := ⟨each, rfl⟩
  exact alike.addCollection_alike (alike.addExtractions_alike (alike.addWrap_alike start))

end ReadAlike

end WorkflowChain
