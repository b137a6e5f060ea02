import WorkflowChain.Proofs.Workflow.Branch
import Mathlib.Data.List.Lex

/-! # The first fault of a description

A description is at fault if it is nested too deep, or else if it has no identifier. The branch of a
tree is refused for the first fault in pre-order, although its nodes are numbered in post-order: a
description is looked at before those below it, and everything at and below a child before the next
child. Pre-order is the lexicographic order of positions, in which `FirstFault` is stated.

`Branch.explained_build` goes along the tree. A fault of the description itself ends the run, else
the first child with a fault does (`FirstFault.below`), and without any fault nothing does.
-/

namespace WorkflowChain

namespace Description

/-- What is wrong with a description at a nesting level, apart from those below it. -/
def fault? (limit level : Nat) (description : Description) : Option GraphError :=
  if level > limit then some (.tooDeep limit)
  else if description.name = "" then some (.missingIdentifier description.depth)
  else none

/-- No description of a tree whose root has the given level is at fault. -/
def Faultless (root : Description) (limit level : Nat) : Prop :=
  ∀ position description, root.at? position = some description →
    description.fault? limit (level + position.length) = none

/-- The description at a position is at fault, and none before it in pre-order is. -/
structure FirstFault (root : Description) (limit level : Nat) (position : Position)
    (error : GraphError) : Prop where
  fault : ∃ description, root.at? position = some description ∧
    description.fault? limit (level + position.length) = some error
  first : ∀ earlier < position, ∀ description, root.at? earlier = some description →
    description.fault? limit (level + earlier.length) = none

variable {root child : Description} {limit level index : Nat} {position : Position}
  {error : GraphError}

/-- A description has no fault of its own exactly if it is not too deep and has a name. -/
theorem fault?_eq_none :
    root.fault? limit level = none ↔
      level ≤ limit ∧ ∃ iri, root.identifier = some iri ∧ iri ≠ "" := by
  unfold fault? name
  by_cases deep : level > limit
  · simp [deep]
  · rw [if_neg deep]
    cases root.identifier <;> simp [Nat.le_of_not_lt deep]

/-- No description is faulty because of a cycle. -/
theorem fault?_ne_cyclic : root.fault? limit level ≠ some .cyclic := by
  unfold fault?
  split
  · exact nofun
  · split <;> exact nofun

theorem level_cons (level index : Nat) (rest : Position) :
    level + (index :: rest).length = level + 1 + rest.length := by
  rw [List.length_cons, Nat.add_comm rest.length, ← Nat.add_assoc]

/-- A tree is without fault exactly if its root and the trees of its children are. -/
theorem faultless_iff :
    root.Faultless limit level ↔
      root.fault? limit level = none ∧ ∀ child ∈ root.childList, child.Faultless limit (level + 1) := by
  constructor
  · intro faultless
    refine ⟨faultless [] root rfl, fun child member position description found => ?_⟩
    obtain ⟨index, chosen⟩ := List.mem_iff_getElem?.mp member
    have below := faultless (index :: position) description (by rw [at?_cons, chosen]; exact found)
    rwa [level_cons] at below
  · rintro ⟨here, each⟩ position description found
    cases position with
    | nil =>
      obtain rfl := Option.some.inj found
      exact here
    | cons index rest =>
      obtain ⟨child, chosen, reached⟩ := Option.bind_eq_some_iff.mp found
      rw [level_cons]
      exact each child (List.mem_of_getElem? chosen) rest description reached

namespace FirstFault

theorem here (fault : root.fault? limit level = some error) :
    root.FirstFault limit level [] error :=
  ⟨⟨root, rfl, fault⟩, fun earlier before => absurd before (List.not_lt_nil earlier)⟩

/-- The first fault of the first child with a fault is the first one, if the root has none. -/
theorem below (unfaulted : root.fault? limit level = none)
    (chosen : root.childList[index]? = some child)
    (before : ∀ other ∈ root.childList.take index, other.Faultless limit (level + 1))
    (first : child.FirstFault limit (level + 1) position error) :
    root.FirstFault limit level (index :: position) error := by
  constructor
  · obtain ⟨description, found, fault⟩ := first.fault
    refine ⟨description, ?_, (level_cons level index position).symm ▸ fault⟩
    rw [at?_cons, chosen]
    exact found
  · intro earlier smaller description found
    cases earlier with
    | nil =>
      obtain rfl := Option.some.inj found
      exact unfaulted
    | cons place rest =>
      obtain ⟨other, taken, reached⟩ := Option.bind_eq_some_iff.mp found
      rw [level_cons]
      rcases List.cons_lt_cons_iff.mp smaller with less | ⟨rfl, inside⟩
      · have member : other ∈ root.childList.take index := by
          refine List.mem_of_getElem? (i := place) ?_
          rw [List.getElem?_take_of_lt less, taken]
        exact before other member rest description reached
      · obtain rfl := Option.some.inj (chosen.symm.trans taken)
        exact first.first rest inside description reached

/-- A tree with a first fault has a fault. -/
theorem not_faultless (first : root.FirstFault limit level position error) :
    ¬ root.Faultless limit level := by
  intro faultless
  obtain ⟨description, found, fault⟩ := first.fault
  rw [faultless position description found] at fault
  cases fault

/-- A tree has only one first fault. -/
theorem unique {other : Position} {reason : GraphError}
    (first : root.FirstFault limit level position error)
    (again : root.FirstFault limit level other reason) : error = reason := by
  obtain ⟨description, found, fault⟩ := first.fault
  obtain ⟨partner, reached, wrong⟩ := again.fault
  rcases lt_trichotomy position other with before | rfl | after
  · rw [again.first position before description found] at fault
    cases fault
  · obtain rfl := Option.some.inj (found.symm.trans reached)
    exact Option.some.inj (fault.symm.trans wrong)
  · rw [first.first other after partner reached] at wrong
    cases wrong

end FirstFault

end Description

namespace Branch

open Description (faultless_iff)

variable {limit level next : Nat} {description : Description} {error : GraphError}

/-- A description with a fault of its own is refused for it, whatever stands below. -/
theorem build_of_fault (fault : description.fault? limit level = some error) :
    build limit level next description = .error error := by
  unfold Description.fault? at fault
  rw [build_eq]
  split at fault
  next deep =>
    cases fault
    exact if_pos deep
  next shallow =>
    split at fault
    next unnamed =>
      cases fault
      have none : description.identifier.filter (!·.isEmpty) = none := by
        rw [Option.filter_eq_none_iff]
        rintro iri identified
        rw [Description.name, identified] at unnamed
        simpa using unnamed
      rw [if_neg shallow, none]
    · cases fault

/-- A description without a fault of its own is refused only for what stands below. -/
theorem build_of_fault_eq_none (unfaulted : description.fault? limit level = none) :
    build limit level next description =
      buildChildren limit level next description.name description.depth description.children := by
  obtain ⟨shallow, iri, identified, filled⟩ := Description.fault?_eq_none.mp unfaulted
  have some : description.identifier.filter (!·.isEmpty) = some description.name := by
    rw [Description.name, identified]
    simp [filled]
  rw [build_eq, if_neg (Nat.not_lt.mpr shallow), some]

/-- A run over a tree succeeds if there is no fault, and else fails with the first one. -/
inductive Explained {α : Type} (root : Description) (limit level : Nat) :
    Except GraphError α → Prop where
  | ok {value : α} (faultless : root.Faultless limit level) : Explained root limit level (.ok value)
  | error {position : Position} {error : GraphError}
      (first : root.FirstFault limit level position error) : Explained root limit level (.error error)

theorem Explained.faultless {α : Type} {root : Description} {value : α}
    (explained : Explained root limit level (Except.ok value)) : root.Faultless limit level := by
  cases explained with
  | ok faultless => exact faultless

theorem Explained.exists_firstFault {α : Type} {root : Description}
    (explained : Explained root limit level (Except.error error : Except GraphError α)) :
    ∃ position, root.FirstFault limit level position error := by
  cases explained with
  | error first => exact ⟨_, first⟩

section Children

variable {children : List Description}
  (each : ∀ child ∈ children, ∀ next, Explained child limit level (build limit level next child))

include each

/-- If the branches of children are built, none of the children has a fault. -/
theorem faultless_of_buildAll {after : Nat} {branches : Children}
    (built : buildAll limit level next children = .ok (after, branches)) :
    ∀ child ∈ children, child.Faultless limit level := by
  intro child member
  obtain ⟨next, branch, own⟩ := exists_build_of_mem built member
  have explained := each child member next
  rw [own] at explained
  exact explained.faultless

/-- The first child that has a fault ends the run over the children. -/
theorem exists_fault_of_buildAll (failed : buildAll limit level next children = .error error) :
    ∃ index child position, children[index]? = some child ∧
      (∀ other ∈ children.take index, other.Faultless limit level) ∧
      child.FirstFault limit level position error := by
  induction children generalizing next with
  | nil => cases failed
  | cons first others ih =>
    have ⟨here, later⟩ := List.forall_mem_cons.mp each
    have explained := here next
    rw [buildAll] at failed
    rcases bind_error.mp failed with own | ⟨branch, own, failed⟩
    · rw [own] at explained
      obtain ⟨position, fault⟩ := explained.exists_firstFault
      exact ⟨0, first, position, rfl, fun _ none => absurd none List.not_mem_nil, fault⟩
    · rw [own] at explained
      rcases bind_error.mp failed with below | ⟨_, _, done⟩
      · obtain ⟨index, child, position, chosen, before, fault⟩ := ih later below
        refine ⟨index + 1, child, position, chosen, ?_, fault⟩
        rw [List.take_succ_cons]
        exact List.forall_mem_cons.mpr ⟨explained.faultless, before⟩
      · cases done

end Children

/-- **Why a branch is built or refused.** -/
theorem explained_build (root : Description) (limit level next : Nat) :
    Explained root limit level (build limit level next root) := by
  induction root generalizing level next with
  | step root each =>
    cases fault : root.fault? limit level with
    | some error =>
      rw [build_of_fault fault]
      exact .error (.here fault)
    | none =>
      rw [build_of_fault_eq_none fault]
      cases listed : root.children with
      | none =>
        have childless : root.childList = [] := by rw [Description.childList, listed, Option.getD_none]
        refine .ok (faultless_iff.mpr ⟨fault, fun child member => ?_⟩)
        rw [childless] at member
        exact absurd member List.not_mem_nil
      | some children =>
        have whole : root.childList = children := by
          rw [Description.childList, listed, Option.getD_some]
        rw [whole] at each
        have below := fun child member => each child member (level + 1)
        rw [buildChildren]
        cases all : buildAll limit (level + 1) next children with
        | ok built =>
          have faultless := faultless_of_buildAll below all
          exact .ok (faultless_iff.mpr ⟨fault, whole ▸ faultless⟩)
        | error error =>
          obtain ⟨index, child, position, chosen, before, first⟩ :=
            exists_fault_of_buildAll below all
          exact .error (.below fault (whole ▸ chosen) (whole ▸ before) first)

end Branch

end WorkflowChain
