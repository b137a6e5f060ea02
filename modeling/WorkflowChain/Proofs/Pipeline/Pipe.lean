import WorkflowChain.Pipeline.Fragment

/-! # Reading a pipe back

A pipe is one text in which names stand between separators. It is the text of all its names one
after the other (`pipeExpression_eq`), and cutting it at the separators gives the names back
(`pipeNames_joinWith`), if each name has characters and none of them is the bar of a separator. So
both sides of a fragment are read back from its pipe, also if one of them or both have no names.
-/

namespace WorkflowChain

/-- A name can be read back from a pipe. -/
structure PipeName (name : String) : Prop where
  filled : name ≠ ""
  plain : '|' ∉ name.toList

/-! ## Joined names -/

section Joined

open Text (joinWith)

variable (separator : String)

theorem joinWith_cons {rest : List String} (nonempty : rest ≠ []) (name : String) :
    joinWith separator (name :: rest) = name ++ separator ++ joinWith separator rest := by
  cases rest with
  | nil => exact absurd rfl nonempty
  | cons second others => rfl

theorem joinWith_append {left right : List String} (first : left ≠ []) (last : right ≠ []) :
    joinWith separator (left ++ right) =
      joinWith separator left ++ separator ++ joinWith separator right := by
  induction left with
  | nil => exact absurd rfl first
  | cons name rest ih =>
    cases rest with
    | nil => exact joinWith_cons separator last name
    | cons second others =>
      have more : second :: others ++ right ≠ [] := List.cons_ne_nil _ _
      have some : second :: others ≠ [] := List.cons_ne_nil _ _
      rw [List.cons_append, joinWith_cons separator more, ih some, joinWith_cons separator some]
      simp only [String.append_assoc]

theorem joinWith_eq_empty_iff {names : List String} (filled : ∀ name ∈ names, name ≠ "") :
    joinWith separator names = "" ↔ names = [] := by
  cases names with
  | nil => simp [joinWith]
  | cons name rest =>
    have own := filled name List.mem_cons_self
    cases rest with
    | nil => simpa [joinWith] using own
    | cons second others =>
      simp [joinWith, String.append_eq_empty_iff, own]

/-- A pipe is the text of all its names, those of the sources first. -/
theorem pipeExpression_eq {sources sinks : List String}
    (filled : ∀ name ∈ sources ++ sinks, name ≠ "") :
    pipeExpression sources sinks = joinWith pipeSeparator (sources ++ sinks) := by
  have ⟨sourcesFilled, sinksFilled⟩ := List.forall_mem_append.mp filled
  have left := joinWith_eq_empty_iff pipeSeparator sourcesFilled
  have right := joinWith_eq_empty_iff pipeSeparator sinksFilled
  simp only [pipeExpression, String.isEmpty_iff, left, right]
  by_cases noSources : sources = []
  · rw [if_pos noSources, noSources, List.nil_append]
  · rw [if_neg noSources]
    by_cases noSinks : sinks = []
    · rw [if_pos noSinks, noSinks, List.append_nil]
    · rw [if_neg noSinks, joinWith_append pipeSeparator noSources noSinks]

end Joined

/-! ## Cutting at separators -/

/-- Without a bar there is no separator. -/
theorem cutPipe_of_notMem {name : List Char} (plain : '|' ∉ name) : cutPipe name = [name] := by
  induction name with
  | nil => rfl
  | cons c rest ih =>
    have later := ih fun member => plain (List.mem_cons_of_mem c member)
    rw [cutPipe, later]
    -- A bar would be the second character of a separator.
    rintro others rfl rfl
    simp at plain

/-- What stands before the first separator is the first name. -/
theorem cutPipe_append {name : List Char} (plain : '|' ∉ name) (rest : List Char) :
    cutPipe (name ++ ' ' :: '|' :: ' ' :: rest) = name :: cutPipe rest := by
  induction name with
  | nil => rfl
  | cons c others ih =>
    have later := ih fun member => plain (List.mem_cons_of_mem c member)
    rw [List.cons_append, cutPipe, later]
    rintro after rfl same
    cases others with
    | nil => simp at same
    | cons d further =>
      obtain rfl := (List.cons.inj same).1
      simp at plain

/-- Names that are joined to a pipe can be cut apart again, if none of them has a bar. -/
theorem cutPipe_joinWith {names : List String} (nonempty : names ≠ [])
    (plain : ∀ name ∈ names, '|' ∉ name.toList) :
    cutPipe (Text.joinWith pipeSeparator names).toList = names.map String.toList := by
  induction names with
  | nil => exact absurd rfl nonempty
  | cons name rest ih =>
    have ⟨own, others⟩ := List.forall_mem_cons.mp plain
    cases rest with
    | nil => exact cutPipe_of_notMem own
    | cons second further =>
      have some : second :: further ≠ [] := List.cons_ne_nil _ _
      have letters : (Text.joinWith pipeSeparator (name :: second :: further)).toList =
          name.toList ++ ' ' :: '|' :: ' ' ::
            (Text.joinWith pipeSeparator (second :: further)).toList := by
        rw [joinWith_cons pipeSeparator some, String.toList_append, String.toList_append,
          List.append_assoc]
        rfl
      rw [letters, cutPipe_append own, ih some others]
      rfl

/-- **Names are read back from a pipe.** -/
theorem pipeNames_joinWith {names : List String} (each : ∀ name ∈ names, PipeName name) :
    pipeNames (Text.joinWith pipeSeparator names) = names := by
  have filled : ∀ name ∈ names, name ≠ "" := fun name member => (each name member).filled
  unfold pipeNames
  simp only [String.isEmpty_iff, joinWith_eq_empty_iff pipeSeparator filled]
  split
  next none => exact none.symm
  next some =>
    rw [cutPipe_joinWith some fun name member => (each name member).plain, List.map_map]
    exact List.map_id'' (fun _ => String.ofList_toList) names

/-- **The sides of a fragment are read back**, first the sources and then the sinks. -/
theorem Fragment.pipeNames_pipeExpression {sources sinks : List String}
    (each : ∀ name ∈ sources ++ sinks, PipeName name) (stages : List Stage) :
    Fragment.pipeNames ⟨stages, pipeExpression sources sinks⟩ = sources ++ sinks := by
  have filled : ∀ name ∈ sources ++ sinks, name ≠ "" := fun name member =>
    (each name member).filled
  rw [Fragment.pipeNames, pipeExpression_eq filled]
  exact pipeNames_joinWith each

/-- Names may begin and end with blanks, which are not taken for those of a separator. -/
theorem Fragment.pipeNames_blanks :
    pipeExpression ["raw ", " "] [" result"] = "raw  |   |  result" ∧
      Fragment.pipeNames ⟨[], "raw  |   |  result"⟩ = ["raw ", " ", " result"] ∧
      Fragment.pipeNames ⟨[], pipeExpression [] [" result"]⟩ = [" result"] ∧
      Fragment.pipeNames ⟨[], pipeExpression [] []⟩ = [] := by
  have result : PipeName " result" := ⟨by decide, by decide⟩
  have each : ∀ name ∈ ["raw ", " "] ++ [" result"], PipeName name := by
    simp only [List.cons_append, List.nil_append, List.forall_mem_cons]
    exact ⟨⟨by decide, by decide⟩, ⟨by decide, by decide⟩, result, nofun⟩
  exact ⟨rfl, pipeNames_pipeExpression each [],
    pipeNames_pipeExpression (List.forall_mem_singleton.mpr result) [],
    pipeNames_pipeExpression (List.forall_mem_nil _) []⟩

end WorkflowChain
