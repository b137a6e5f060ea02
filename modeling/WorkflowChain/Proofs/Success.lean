import Mathlib.Data.List.Forall2

/-! # Runs that succeed

What is known of the parts of a run in `Except` from the fact that the whole run succeeded, and how
a run that changes a state goes on after a part of it.
-/

namespace WorkflowChain

variable {ε α β : Type}

/-- A sequence succeeds exactly if its first part does, and then its second on the result. -/
theorem bind_ok {run : Except ε α} {next : α → Except ε β} {result : β} :
    run >>= next = .ok result ↔ ∃ value, run = .ok value ∧ next value = .ok result := by
  cases run with
  | error reason => exact ⟨nofun, fun ⟨_, same, _⟩ => nomatch same⟩
  | ok value =>
    constructor
    · exact fun later => ⟨value, rfl, later⟩
    · rintro ⟨_, same, later⟩
      cases same
      exact later

/-- A sequence fails exactly if its first part does, or its second on the result of the first. -/
theorem bind_error {run : Except ε α} {next : α → Except ε β} {reason : ε} :
    run >>= next = .error reason ↔
      run = .error reason ∨ ∃ value, run = .ok value ∧ next value = .error reason := by
  cases run with
  | error own =>
    constructor
    · exact fun failed => .inl (congrArg Except.error (Except.error.inj failed))
    · rintro (same | ⟨_, same, _⟩)
      · exact congrArg Except.error (Except.error.inj same)
      · cases same
  | ok value =>
    constructor
    · exact fun later => .inr ⟨value, rfl, later⟩
    · rintro (same | ⟨_, same, later⟩)
      · cases same
      · cases same
        exact later

/-- A run over a list succeeds exactly if it does on every item. -/
theorem mapM_ok {run : α → Except ε β} {items : List α} {results : List β} :
    items.mapM run = .ok results ↔ List.Forall₂ (fun item result => run item = .ok result) items
      results := by
  induction items generalizing results with
  | nil =>
    rw [List.mapM_nil, List.forall₂_nil_left_iff]
    exact ⟨fun same => (Except.ok.inj same).symm, fun same => same ▸ rfl⟩
  | cons item rest ih =>
    rw [List.mapM_cons, List.forall₂_cons_left_iff, bind_ok]
    constructor
    · rintro ⟨result, here, later⟩
      obtain ⟨others, below, same⟩ := bind_ok.mp later
      exact ⟨result, others, here, ih.mp below, (Except.ok.inj same).symm⟩
    · rintro ⟨result, others, here, below, rfl⟩
      exact ⟨result, here, bind_ok.mpr ⟨others, ih.mpr below, rfl⟩⟩

theorem mapM_eq_ok_map {run : α → Except ε β} {result : α → β} {items : List α}
    (each : ∀ item ∈ items, run item = .ok (result item)) :
    items.mapM run = .ok (items.map result) :=
  mapM_ok.mpr (List.forall₂_map_right_iff.mpr (List.forall₂_same.mpr each))

section Items

variable {run : α → Except ε β} {items : List α} {results : List β}
  (ran : items.mapM run = .ok results)

include ran

/-- Every result is that of an item. -/
theorem exists_item_of_mapM_ok {result : β} (member : result ∈ results) :
    ∃ item ∈ items, run item = .ok result := by
  rw [mapM_ok] at ran
  induction ran with
  | nil => exact absurd member List.not_mem_nil
  | cons own _ ih =>
    rcases List.mem_cons.mp member with rfl | member
    · exact ⟨_, List.mem_cons_self, own⟩
    · obtain ⟨item, listed, same⟩ := ih member
      exact ⟨item, List.mem_cons_of_mem _ listed, same⟩

/-- Every item has a result. -/
theorem exists_result_of_mapM_ok {item : α} (member : item ∈ items) :
    ∃ result ∈ results, run item = .ok result := by
  rw [mapM_ok] at ran
  induction ran with
  | nil => exact absurd member List.not_mem_nil
  | cons own _ ih =>
    rcases List.mem_cons.mp member with rfl | member
    · exact ⟨_, List.mem_cons_self, own⟩
    · obtain ⟨result, listed, same⟩ := ih member
      exact ⟨result, List.mem_cons_of_mem _ listed, same⟩

end Items

/-- A run over a list that carries a state is run on every item. -/
theorem exists_step_of_foldlM_ok {run : β → α → Except ε β} {items : List α} {start result : β}
    (ran : items.foldlM run start = .ok result) {item : α} (member : item ∈ items) :
    ∃ before after, run before item = .ok after := by
  induction items generalizing start with
  | nil => exact absurd member List.not_mem_nil
  | cons first rest ih =>
    obtain ⟨middle, own, ran⟩ := bind_ok.mp (List.foldlM_cons (m := Except ε) ▸ ran)
    rcases List.mem_cons.mp member with rfl | member
    · exact ⟨start, middle, own⟩
    · exact ih ran member

section State

variable {σ : Type} {run : ExceptT ε (StateM σ) α} {next : α → ExceptT ε (StateM σ) β}
  {state after : σ}

/-- After a part that succeeds, a run goes on with its result in the state that it left. -/
theorem run_bind_ok {value : α} (ran : (run.run.run state).run = (.ok value, after)) :
    ((run >>= next).run.run state).run = ((next value).run.run after).run := by
  change (ExceptT.bindCont next (run.run.run state).run.1).run (run.run.run state).run.2 = _
  rw [ran]
  rfl

/-- A part that fails is the end of a run. -/
theorem run_bind_error {error : ε} (failed : (run.run.run state).run = (.error error, after)) :
    ((run >>= next).run.run state).run = (.error error, after) := by
  change (ExceptT.bindCont next (run.run.run state).run.1).run (run.run.run state).run.2 = _
  rw [failed]
  rfl

end State

end WorkflowChain
