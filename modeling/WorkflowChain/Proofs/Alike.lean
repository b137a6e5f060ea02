import Mathlib.Data.List.Forall2

/-! # Runs that end alike

Two programs are compared by what their runs end with: both succeed, with related results, or both
fail, for related reasons. As this is kept by sequences of runs, by runs over lists and by loops, it
is enough to relate the parts in which the programs differ.
-/

namespace WorkflowChain

variable {ε α β γ δ : Type}

/-- Two runs end alike. -/
inductive RunsAlike (reasons : ε → ε → Prop) (results : α → β → Prop) :
    Except ε α → Except ε β → Prop where
  | ok {value : α} {other : β} (related : results value other) :
      RunsAlike reasons results (.ok value) (.ok other)
  | error {reason other : ε} (related : reasons reason other) :
      RunsAlike reasons results (.error reason) (.error other)

namespace RunsAlike

variable {reasons : ε → ε → Prop}

theorem refl (reflexive : ∀ reason, reasons reason reason) (run : Except ε α) :
    RunsAlike reasons Eq run run := by
  cases run with
  | ok value => exact .ok rfl
  | error reason => exact .error (reflexive reason)

theorem imp {results finals : α → β → Prop} {run : Except ε α} {other : Except ε β}
    (alike : RunsAlike reasons results run other)
    (weaker : ∀ value partner, results value partner → finals value partner) :
    RunsAlike reasons finals run other := by
  cases alike with
  | ok related => exact .ok (weaker _ _ related)
  | error related => exact .error related

/-- What is known of the results may be used together with the first run. -/
theorem and_ran {results : α → β → Prop} {run : Except ε α} {other : Except ε β}
    (alike : RunsAlike reasons results run other) :
    RunsAlike reasons (fun value partner => results value partner ∧ run = .ok value) run other := by
  cases alike with
  | ok related => exact .ok ⟨related, rfl⟩
  | error related => exact .error related

/-- Runs are alike if their first parts are, and then the parts that follow. -/
theorem bind {results : α → β → Prop} {finals : γ → δ → Prop} {run : Except ε α}
    {other : Except ε β} {next : α → Except ε γ} {following : β → Except ε δ}
    (alike : RunsAlike reasons results run other)
    (later : ∀ value partner, results value partner →
      RunsAlike reasons finals (next value) (following partner)) :
    RunsAlike reasons finals (run >>= next) (other >>= following) := by
  cases alike with
  | ok related => exact later _ _ related
  | error related => exact .error related

/-- Runs with equal results can be followed by anything that ends alike after the same result. -/
theorem bind_eq {finals : γ → δ → Prop} {run other : Except ε α} {next : α → Except ε γ}
    {following : α → Except ε δ} (alike : RunsAlike reasons Eq run other)
    (later : ∀ value, RunsAlike reasons finals (next value) (following value)) :
    RunsAlike reasons finals (run >>= next) (other >>= following) :=
  alike.bind fun value _ same => same ▸ later value

theorem mapM {results : γ → δ → Prop} {run : α → Except ε γ} {following : β → Except ε δ}
    {items : List α} {others : List β}
    (each : List.Forall₂ (fun item other => RunsAlike reasons results (run item) (following other))
      items others) :
    RunsAlike reasons (List.Forall₂ results) (items.mapM run) (others.mapM following) := by
  induction each with
  | nil => exact .ok .nil
  | cons own _ ih =>
    rw [List.mapM_cons, List.mapM_cons]
    refine own.bind fun _ _ first => ih.bind fun _ _ rest => ?_
    exact .ok (.cons first rest)

theorem mapM_eq {run following : α → Except ε γ} {items : List α}
    (each : ∀ item ∈ items, RunsAlike reasons Eq (run item) (following item)) :
    RunsAlike reasons Eq (items.mapM run) (items.mapM following) := by
  have alike : RunsAlike reasons (List.Forall₂ Eq) (items.mapM run) (items.mapM following) :=
    mapM (List.forall₂_same.mpr each)
  rwa [List.forall₂_eq_eq_eq] at alike

/-- Loops over the same items end alike if every round does. -/
theorem foldlM {states : α → β → Prop} {round : α → γ → Except ε α}
    {following : β → γ → Except ε β} {items : List γ}
    (each : ∀ item ∈ items, ∀ state other, states state other →
      RunsAlike reasons states (round state item) (following other item))
    {state : α} {other : β} (related : states state other) :
    RunsAlike reasons states (items.foldlM round state) (items.foldlM following other) := by
  induction items generalizing state other with
  | nil => exact .ok related
  | cons item rest ih =>
    have ⟨own, others⟩ := List.forall_mem_cons.mp each
    rw [List.foldlM_cons, List.foldlM_cons]
    exact (own state other related).bind fun _ _ later => ih others later

/-- Searches with related outcomes end alike. -/
theorem ofOption {results : α → β → Prop} {found : Option α} {partner : Option β}
    (related : Option.Rel results found partner) {reason other : ε} (same : reasons reason other) :
    RunsAlike reasons results (found.elim (.error reason) .ok)
      (partner.elim (.error other) .ok) := by
  cases related with
  | none => exact .error same
  | some related => exact .ok related

/-- Runs that end alike have the same results. -/
theorem ok_iff {run other : Except ε α} (alike : RunsAlike reasons Eq run other) {result : α} :
    run = .ok result ↔ other = .ok result := by
  cases alike with
  | ok same => rw [same]
  | error => exact ⟨nofun, nofun⟩

end RunsAlike

end WorkflowChain
