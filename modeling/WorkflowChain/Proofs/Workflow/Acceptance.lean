import WorkflowChain.Proofs.Workflow.Dependencies

/-! # Which descriptions have a graph

A description has a graph exactly if none of the descriptions in it is at fault, and is refused for
the first fault in pre-order otherwise (`Graph.refuses_first_fault`). The ceiling for the nesting
only decides whether there is a graph, and not which one: a graph is told by the positions of its
description.
-/

namespace WorkflowChain

namespace Graph

variable {root : Description} {limit : Nat}

/-- A tree of which a graph is built has no fault. -/
theorem faultless_of_build {graph : Graph} (built : build root limit = .ok graph) :
    root.Faultless limit 0 := by
  obtain ⟨branch, own, _⟩ := build_ok built
  have explained := Branch.explained_build root limit 0 0
  rw [own] at explained
  exact explained.faultless

/-- A tree without a fault has a graph. -/
theorem exists_graph_of_faultless (faultless : root.Faultless limit 0) :
    ∃ graph, build root limit = .ok graph := by
  cases outcome : build root limit with
  | ok graph => exact ⟨graph, rfl⟩
  | error error =>
    obtain ⟨_, first⟩ := exists_firstFault outcome
    exact absurd faultless first.not_faultless

/-- A tree is refused exactly for its first fault. -/
theorem build_error_iff {error : GraphError} :
    build root limit = .error error ↔ ∃ position, root.FirstFault limit 0 position error := by
  constructor
  · exact exists_firstFault
  · rintro ⟨position, first⟩
    cases outcome : build root limit with
    | ok graph => exact absurd (faultless_of_build outcome) first.not_faultless
    | error reason =>
      obtain ⟨_, again⟩ := exists_firstFault outcome
      rw [first.unique again]

/-- Graphs of one description are equal, whatever the ceilings. -/
theorem eq_of_build {graph other : Graph} {ceiling : Nat} (built : build root limit = .ok graph)
    (again : build root ceiling = .ok other) : graph = other := by
  obtain ⟨nodes, top⟩ := graph
  obtain ⟨partners, last⟩ := other
  have sameNodes : nodes = partners := (nodes_of_build built).trans (nodes_of_build again).symm
  have sameRoot : top = last := (root_of_build built).trans (root_of_build again).symm
  rw [sameNodes, sameRoot]

/-- **A description is refused exactly for its first fault.** It has a graph exactly if no
description in it is nested deeper than the ceiling and each has an identifier that is not empty.
Else the first description in pre-order that is at fault tells the reason. A graph stays the same
under a higher ceiling. -/
theorem refuses_first_fault (root : Description) (limit : Nat) :
    ((∃ graph, build root limit = .ok graph) ↔
      ∀ position description, root.at? position = some description →
        position.length ≤ limit ∧ ∃ iri, description.identifier = some iri ∧ iri ≠ "") ∧
    (∀ error, build root limit = .error error ↔
      ∃ position, root.FirstFault limit 0 position error) ∧
    ∀ graph higher, build root limit = .ok graph → limit ≤ higher →
      build root higher = .ok graph := by
  have faultless : ∀ ceiling, root.Faultless ceiling 0 ↔
      ∀ position description, root.at? position = some description →
        position.length ≤ ceiling ∧ ∃ iri, description.identifier = some iri ∧ iri ≠ "" := by
    intro ceiling
    unfold Description.Faultless
    simp only [Description.fault?_eq_none, Nat.zero_add]
  refine ⟨?_, fun error => build_error_iff, ?_⟩
  · rw [← faultless]
    exact ⟨fun ⟨_, built⟩ => faultless_of_build built, exists_graph_of_faultless⟩
  · intro graph higher built above
    have known := (faultless limit).mp (faultless_of_build built)
    have raised : root.Faultless higher 0 := by
      refine (faultless higher).mpr fun position description found => ?_
      obtain ⟨shallow, named⟩ := known position description found
      exact ⟨shallow.trans above, named⟩
    obtain ⟨other, again⟩ := exists_graph_of_faultless raised
    rw [again, eq_of_build built again]

end Graph

/-- A description with a child that has no identifier, but a child of its own. -/
def Description.namelessChild : Description :=
  (branch "field").consuming ⟨none, 7, none, some [leaf "geometry"]⟩

/-- A child without identifier is refused before its own child, which is nested too deep. A graph
that is built under the least ceiling is built under a higher one. -/
theorem Graph.refuses_first_fault_namelessChild :
    build .namelessChild 1 = .error (.missingIdentifier 7) ∧
      (∃ position, Description.namelessChild.FirstFault 1 0 position (.missingIdentifier 7)) ∧
      ∃ graph, build .twoTools 4 = .ok graph ∧ build .twoTools 64 = .ok graph := by
  have refused : build .namelessChild 1 = .error (.missingIdentifier 7) := rfl
  obtain ⟨graph, built⟩ : ∃ graph, build .twoTools 4 = .ok graph := ⟨_, rfl⟩
  exact ⟨refused, ((refuses_first_fault .namelessChild 1).2.1 _).mp refused, graph, built,
    (refuses_first_fault .twoTools 4).2.2 graph 64 built (by decide)⟩

end WorkflowChain
