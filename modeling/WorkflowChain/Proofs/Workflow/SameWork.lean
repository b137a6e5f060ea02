import WorkflowChain.Proofs.Alike
import WorkflowChain.Proofs.Workflow.Branch
import Mathlib.Data.Option.Basic

/-! # Descriptions of the same work

What a workflow does is told by the shape of its description, by the identifiers and by which
children are productions. The depths are only carried along, and the predicate of a consumption, or
its absence, makes no difference. Descriptions that differ in nothing else have the same graph up
to the depths of its nodes, or the same reason for having none (`Graph.build_alike`).
-/

namespace WorkflowChain

/-- Two descriptions that stand at the same position of their trees say the same. -/
structure Description.SameTask (position : Position) (description other : Description) : Prop where
  identifier : description.identifier = other.identifier
  leaf : description.isLeaf = other.isLeaf
  production : position ≠ [] → description.isProduction = other.isProduction

/-- Two trees have descriptions at the same positions, which say the same. -/
def Description.SameWork (root other : Description) : Prop :=
  ∀ position, Option.Rel (SameTask position) (root.at? position) (other.at? position)

/-- Errors are equal, but for the depth that is told of a missing identifier. -/
inductive GraphError.SameUpToDepth : GraphError → GraphError → Prop where
  | refl (error : GraphError) : SameUpToDepth error error
  | missingIdentifier (depth other : Nat) :
      SameUpToDepth (.missingIdentifier depth) (.missingIdentifier other)

/-- The node without its depth. -/
def Node.withoutDepth (node : Node) : Node := { node with depth := 0 }

/-- The graph without the depths of its nodes. -/
def Graph.withoutDepths (graph : Graph) : Graph :=
  { graph with nodes := graph.nodes.map Node.withoutDepth }

/-! ## Trees of the same work -/

/-- Lists are related item by item if they are at each place. -/
theorem forall₂_of_getElem? {α β : Type} {related : α → β → Prop} {items : List α}
    {others : List β} (each : ∀ place : Nat, Option.Rel related items[place]? others[place]?) :
    List.Forall₂ related items others := by
  induction items generalizing others with
  | nil =>
    cases others with
    | nil => exact .nil
    | cons other others => cases each 0
  | cons item items ih =>
    cases others with
    | nil => cases each 0
    | cons other others =>
      cases each 0 with
      | some here => exact .cons here (ih fun place => each (place + 1))

/-- What is related by a relation is related by a weaker one. -/
theorem rel_imp {α β : Type} {first second : α → β → Prop} {found : Option α} {other : Option β}
    (related : Option.Rel first found other)
    (weaker : ∀ value partner, first value partner → second value partner) :
    Option.Rel second found other := by
  cases related with
  | none => exact .none
  | some related => exact .some (weaker _ _ related)

namespace Description

variable {root other : Description}

instance (position : Position) (description partner : Description) :
    Decidable (SameTask position description partner) :=
  decidable_of_iff (description.identifier = partner.identifier ∧
      description.isLeaf = partner.isLeaf ∧
      (position ≠ [] → description.isProduction = partner.isProduction))
    ⟨fun ⟨identifier, leaf, production⟩ => ⟨identifier, leaf, production⟩,
      fun ⟨identifier, leaf, production⟩ => ⟨identifier, leaf, production⟩⟩

/-- Trees with the same positions are compared at these only. -/
theorem sameWork_of_positions (shape : root.positions = other.positions)
    (each : ∀ position ∈ root.positions,
      SameTask position (root.descriptionAt position) (other.descriptionAt position)) :
    root.SameWork other := by
  intro position
  by_cases member : position ∈ root.positions
  · rw [at?_descriptionAt member, at?_descriptionAt (shape ▸ member)]
    exact .some (each position member)
  · have absent : ∀ tree : Description, position ∉ tree.positions → tree.at? position = none := by
      intro tree outside
      rw [mem_positions, not_exists] at outside
      exact Option.eq_none_iff_forall_ne_some.mpr outside
    rw [absent root member, absent other (shape ▸ member)]
    exact .none

namespace SameWork

variable (same : root.SameWork other)

include same

/-- Trees with the same work have roots with the same task. -/
theorem top : SameTask [] root other := by
  cases same [] with
  | some task => exact task

/-- The children are of the same work one by one, and productions in the same places. -/
theorem children :
    List.Forall₂ (fun child partner => child.isProduction = partner.isProduction ∧
      child.SameWork partner) root.childList other.childList := by
  apply forall₂_of_getElem?
  intro place
  have below : ∀ rest, Option.Rel (SameTask (place :: rest))
      (root.childList[place]?.bind (·.at? rest)) (other.childList[place]?.bind (·.at? rest)) :=
    fun rest => same (place :: rest)
  cases chosen : root.childList[place]? with
  | none =>
    cases taken : other.childList[place]? with
    | none => exact .none
    | some partner =>
      rw [chosen, taken] at below
      cases below []
  | some child =>
    cases taken : other.childList[place]? with
    | none =>
      rw [chosen, taken] at below
      cases below []
    | some partner =>
      rw [chosen, taken] at below
      refine .some ⟨?_, fun rest => ?_⟩
      · cases below [] with
        | some task => exact task.production (List.cons_ne_nil _ _)
      · exact rel_imp (below rest) fun _ _ task =>
          ⟨task.identifier, task.leaf, fun _ => task.production (List.cons_ne_nil _ _)⟩

end SameWork

end Description

/-! ## Branches -/

namespace Branch

/-- The branch without the depths of its nodes. -/
def withoutDepths (branch : Branch) : Branch :=
  ⟨branch.below.map Node.withoutDepth, branch.top.withoutDepth⟩

/-- The branches of children without the depths of their nodes. -/
def Children.withoutDepths (children : Children) : Children :=
  children.map fun child => (child.1, child.2.withoutDepths)

theorem nodes_withoutDepths (branch : Branch) :
    branch.withoutDepths.nodes = branch.nodes.map Node.withoutDepth := by
  rw [nodes, nodes, List.map_append]
  rfl

/-- Branches can be attached before depths are left out or after it. -/
theorem attached_withoutDepths (id : Nat) (identifier : String) (child : Bool × Branch) :
    attached id identifier (child.1, child.2.withoutDepths) =
      (attached id identifier child).withoutDepths := by
  obtain ⟨produces, branch⟩ := child
  cases produces with
  | true => rfl
  | false =>
    simp only [attached, consumedBy]
    by_cases unused : branch.top.kind.input.isEmpty = true
    · simp only [withoutDepths, Node.withoutDepth, unused, ↓reduceIte]
      rfl
    · simp only [withoutDepths, Node.withoutDepth, unused]
      rfl

theorem tops_withoutDepths (productions : Bool) (children : Children) :
    tops productions children.withoutDepths = (tops productions children).map Node.withoutDepth := by
  simp only [tops, Children.withoutDepths, List.filter_map, List.map_map]
  rfl

/-- A joined branch has the depths of its own node and of the branches that are joined. -/
theorem join_withoutDepths (id : Nat) (identifier : String) (depth : Nat) (children : Children) :
    (join id identifier depth children).withoutDepths =
      join id identifier 0 children.withoutDepths := by
  have below : (children.flatMap fun child => (attached id identifier child).nodes).map
        Node.withoutDepth =
      children.withoutDepths.flatMap fun child => (attached id identifier child).nodes := by
    rw [Children.withoutDepths, List.flatMap_map, List.map_flatMap]
    congr 1
    funext child
    rw [attached_withoutDepths, nodes_withoutDepths]
  have output : (tops true children.withoutDepths).getLast?.map Node.identifier =
      (tops true children).getLast?.map Node.identifier := by
    rw [tops_withoutDepths, List.getLast?_map, Option.map_map]
    rfl
  have inputs : (tops false children.withoutDepths).map Node.id =
      (tops false children).map Node.id := by
    rw [tops_withoutDepths, List.map_map]
    rfl
  unfold join
  rw [output, inputs]
  exact congrArg (Branch.mk · _) below

/-- Two runs give branches that are equal but for depths, or fail for the same reason. -/
abbrev Alike : Except GraphError Branch → Except GraphError Branch → Prop :=
  RunsAlike GraphError.SameUpToDepth fun branch partner =>
    branch.withoutDepths = partner.withoutDepths

/-- Children with the same work have branches that are alike, if each two of them have. -/
theorem buildAll_alike {limit level : Nat} {children others : List Description}
    (each : List.Forall₂ (fun child partner => child.isProduction = partner.isProduction ∧
      ∀ next, Alike (build limit level next child) (build limit level next partner)) children
        others) (next : Nat) :
    RunsAlike GraphError.SameUpToDepth
      (fun found partner => found.1 = partner.1 ∧
        found.2.withoutDepths = partner.2.withoutDepths)
      (buildAll limit level next children) (buildAll limit level next others) := by
  induction each generalizing next with
  | nil => exact .ok ⟨rfl, rfl⟩
  | cons own _ ih =>
    rw [buildAll, buildAll, own.1]
    refine (own.2 next).bind fun branch partner same => ?_
    have numbered : branch.top.id = partner.top.id :=
      congrArg (fun branch => branch.top.id) same
    rw [numbered]
    refine (ih _).bind fun found rest later => .ok ⟨later.1, ?_⟩
    exact congrArg₂ List.cons (congrArg _ same) later.2

/-- A description has a branch like that of another if their children are alike. -/
theorem buildChildren_alike {limit level : Nat} {children others : Option (List Description)}
    (leaf : children.isNone = others.isNone)
    (each : List.Forall₂ (fun child partner => child.isProduction = partner.isProduction ∧
      ∀ next, Alike (build limit (level + 1) next child) (build limit (level + 1) next partner))
        (children.getD []) (others.getD [])) (next : Nat) (identifier : String)
    (depth depthOther : Nat) :
    Alike (buildChildren limit level next identifier depth children)
      (buildChildren limit level next identifier depthOther others) := by
  cases children with
  | none =>
    rw [Option.isNone_iff_eq_none.mp leaf.symm]
    exact .ok rfl
  | some children =>
    cases others with
    | none => cases leaf
    | some others =>
      rw [buildChildren, buildChildren]
      refine (buildAll_alike each next).bind ?_
      rintro ⟨after, found⟩ ⟨_, partners⟩ ⟨rfl, later⟩
      refine .ok ?_
      rw [join_withoutDepths, join_withoutDepths, later]

/-- **Branches of the same work.** -/
theorem build_alike {root other : Description} (same : root.SameWork other)
    (limit level next : Nat) :
    Alike (build limit level next root) (build limit level next other) := by
  induction root generalizing other level next with
  | step root below =>
    rw [build_eq, build_eq, same.top.identifier]
    by_cases deep : level > limit
    · simp only [deep, ↓reduceIte]
      exact .error (.refl _)
    · simp only [deep, ↓reduceIte]
      cases other.identifier.filter (!·.isEmpty) with
      | none => exact .error (.missingIdentifier _ _)
      | some iri =>
        refine buildChildren_alike same.top.leaf ?_ next iri _ _
        -- Each child is known, by induction, to be built like any child of the same work.
        have each := (List.forall₂_and_left _ _).mpr ⟨below, same.children⟩
        refine each.imp fun child partner known => ⟨known.2.1, fun next => ?_⟩
        exact known.1 known.2.2 (level + 1) next

end Branch

/-! ## Graphs -/

namespace Graph

theorem edges_withoutDepths (graph : Graph) : graph.withoutDepths.edges = graph.edges := by
  rw [edges, edges, withoutDepths, List.flatMap_map]
  rfl

theorem isOrdered_withoutDepths (graph : Graph) :
    graph.withoutDepths.isOrdered = graph.isOrdered := by
  rw [isOrdered, isOrdered, edges_withoutDepths]

/-- **Graphs of the same work.** -/
theorem build_alike {root other : Description} (same : root.SameWork other) (limit : Nat) :
    RunsAlike GraphError.SameUpToDepth
      (fun graph partner => graph.withoutDepths = partner.withoutDepths)
      (build root limit) (build other limit) := by
  refine (Branch.build_alike same limit 0 0).bind fun branch partner branches => ?_
  have graphs : (Graph.mk branch.nodes branch.top.id).withoutDepths =
      (Graph.mk partner.nodes partner.top.id).withoutDepths := by
    simp only [withoutDepths, ← Branch.nodes_withoutDepths, branches, mk.injEq, true_and]
    exact congrArg (fun branch => branch.top.id) branches
  have ordered := congrArg isOrdered graphs
  rw [isOrdered_withoutDepths, isOrdered_withoutDepths] at ordered
  dsimp only
  rw [ordered]
  by_cases forward : (Graph.mk partner.nodes partner.top.id).isOrdered = true
  · simp only [forward, ↓reduceIte]
    exact .ok graphs
  · simp only [forward]
    exact .error (.refl _)

end Graph

end WorkflowChain
