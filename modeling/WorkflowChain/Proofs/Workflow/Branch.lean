import WorkflowChain.Proofs.Success
import WorkflowChain.Proofs.Workflow.NodeAt

/-! # Branches follow the tree

A branch that is built has, for every position of its description, the node that the position asks
for (`Branch.build_nodes`). The proof is by induction on the tree. The branches of the children are
built one after the other, so the induction over them keeps what is known of those that are still to
come (`Branch.Follow`); a branch changes once more when it is taken into the branch of its parent,
and only in its top node (`Branch.attached_nodes`).
-/

namespace WorkflowChain.Branch

open Description (sizes positionsFrom)

/-! ## Runs -/

/-- A branch is built level by level: the depth is checked first, then the identifier, then come the
children. -/
theorem build_eq (limit level next : Nat) (description : Description) :
    build limit level next description =
      if level > limit then .error (.tooDeep limit)
      else match description.identifier.filter (!·.isEmpty) with
        | none => .error (.missingIdentifier description.depth)
        | some iri =>
          buildChildren limit level next iri description.depth description.children := by
  obtain ⟨identifier, depth, relation, children⟩ := description
  unfold build
  rfl

/-- A description with a branch is not nested too deep and has an identifier. -/
theorem build_ok {limit level next : Nat} {description : Description} {branch : Branch}
    (built : build limit level next description = .ok branch) :
    level ≤ limit ∧ description.identifier = some description.name ∧ description.name ≠ "" ∧
      buildChildren limit level next description.name description.depth description.children =
        .ok branch := by
  obtain ⟨identifier, depth, relation, children⟩ := description
  rw [build] at built
  split at built
  · cases built
  next shallow =>
    split at built
    · cases built
    next iri named =>
      obtain ⟨rfl, filled⟩ := Option.filter_eq_some_iff.mp named
      refine ⟨Nat.le_of_not_lt shallow, rfl, ?_, built⟩
      simpa [Description.name] using filled

/-- The branches of a list are built from left to right, each numbered on from the one before. -/
theorem buildAll_cons_ok {limit level next after : Nat} {first : Description}
    {others : List Description} {branches : Children}
    (built : buildAll limit level next (first :: others) = .ok (after, branches)) :
    ∃ branch rest, build limit level next first = .ok branch ∧
      buildAll limit level (branch.top.id + 1) others = .ok (after, rest) ∧
      branches = (first.isProduction, branch) :: rest := by
  rw [buildAll] at built
  obtain ⟨branch, here, built⟩ := bind_ok.mp built
  obtain ⟨⟨last, rest⟩, later, built⟩ := bind_ok.mp built
  cases built
  exact ⟨branch, rest, here, later, rfl⟩

/-- Every child in a list with branches has a branch of its own. -/
theorem exists_build_of_mem {limit level next after : Nat} {child : Description}
    {children : List Description} {branches : Children}
    (built : buildAll limit level next children = .ok (after, branches))
    (member : child ∈ children) :
    ∃ next branch, build limit level next child = .ok branch := by
  induction children generalizing next branches with
  | nil => exact absurd member List.not_mem_nil
  | cons first others ih =>
    obtain ⟨branch, rest, here, later, _⟩ := buildAll_cons_ok built
    rcases List.mem_cons.mp member with rfl | member
    · exact ⟨next, branch, here⟩
    · exact ih later member

/-- Every description of a tree with a branch has an identifier, which is not empty. -/
theorem named_of_build {limit level next : Nat} {root description : Description} {branch : Branch}
    {position : Position} (built : build limit level next root = .ok branch)
    (found : root.at? position = some description) :
    description.identifier = some description.name ∧ description.name ≠ "" := by
  induction position generalizing root level next branch with
  | nil =>
    obtain rfl : root = description := Option.some.inj found
    obtain ⟨_, identified, filled, _⟩ := build_ok built
    exact ⟨identified, filled⟩
  | cons index below ih =>
    obtain ⟨child, chosen, reached⟩ := Option.bind_eq_some_iff.mp found
    obtain ⟨_, _, _, built⟩ := build_ok built
    have member := List.mem_of_getElem? chosen
    rw [Description.childList] at member
    cases listed : root.children with
    | none =>
      rw [listed] at member
      exact absurd member List.not_mem_nil
    | some children =>
      rw [listed, buildChildren] at built
      obtain ⟨⟨after, branches⟩, all, _⟩ := bind_ok.mp built
      rw [listed] at member
      obtain ⟨_, _, own⟩ := exists_build_of_mem all member
      exact ih own reached

/-! ## Taking a branch into that of its parent -/

/-- The branch of a child as it is taken into the branch of the description with the given number.
-/
def attached (id : Nat) (identifier : String) (child : Bool × Branch) : Branch :=
  if child.1 then child.2.producing id else child.2.consumedBy identifier

/-- To attach a branch changes nothing below its top. -/
theorem attached_below (id : Nat) (identifier : String) (child : Bool × Branch) :
    (attached id identifier child).below = child.2.below := by
  unfold attached producing consumedBy
  split
  · rfl
  · split <;> rfl

/-- The nodes of a branch are those below its top node and the top node. -/
theorem parts_of_nodes {description : Description} {branch : Branch} {next : Nat}
    (nodes : branch.nodes = description.positions.map (description.nodeAt next)) :
    branch.below = (positionsFrom 0 description.childList).map (description.nodeAt next) ∧
      branch.top = description.nodeAt next [] := by
  rw [Branch.nodes, Description.positions_eq, List.map_append] at nodes
  obtain ⟨below, top⟩ := List.append_inj' nodes rfl
  exact ⟨below, List.singleton_inj.mp top⟩

section Attached

variable {root child : Description} {before after : List Description}
  (split : root.childList = before ++ child :: after) {first : Nat} {branch : Branch}

include split

/-- The top node is what the tree of the parent asks for. Nothing consumes it before, so that the
parent becomes its consumer if it consumes it. -/
theorem attached_top (top : branch.top = child.nodeAt (first + sizes before) []) :
    (attached (first + root.number []) root.name (child.isProduction, branch)).top =
      root.nodeAt first [before.length] := by
  have found : root.at? ([] ++ [before.length]) = some child := by
    rw [Description.at?_child rfl, Description.childList_of_split split]
  have unconsumed : branch.top.kind.input = "" := by
    rw [top]
    rfl
  have here := root.nodeAt_cons split child.nil_mem_positions first
  have produced := Description.producedAt_child found
  have consumer := Description.consumerAt_child found
  rw [List.nil_append] at produced consumer
  rw [here, produced, consumer]
  cases produces : child.isProduction with
  | true =>
    simp only [attached, producing, top]
    rfl
  | false =>
    simp only [attached, consumedBy, unconsumed]
    rw [top]
    rfl

/-- The nodes of a child that is attached are those that its parent's tree has at its positions. -/
theorem attached_nodes
    (nodes : branch.nodes = child.positions.map (child.nodeAt (first + sizes before))) :
    (attached (first + root.number []) root.name (child.isProduction, branch)).nodes =
      (child.positions.map (before.length :: ·)).map (root.nodeAt first) := by
  obtain ⟨below, top⟩ := parts_of_nodes nodes
  rw [Branch.nodes, attached_below, attached_top split top, below, Description.positions_eq,
    List.map_append, List.map_append, List.map_map]
  -- Only the nodes below the child are left, and they do not depend on what is above it.
  congr 1
  apply List.map_congr_left
  intro rest member
  have inner : rest ≠ [] := by
    rintro rfl
    obtain ⟨_, _, _, _, _, same⟩ := Description.mem_positionsFrom.mp member
    cases same
  have known : rest ∈ child.positions := by
    rw [Description.positions_eq]
    exact List.mem_append_left _ member
  exact (Description.nodeAt_cons_of_ne_nil split known inner first).symm

end Attached

/-! ## The branches of the children -/

theorem tops_cons (productions produces : Bool) (branch : Branch) (rest : Children) :
    tops productions ((produces, branch) :: rest) =
      if produces = productions then branch.top :: tops productions rest
      else tops productions rest := by
  unfold tops
  rw [List.filter_cons]
  split <;> simp_all

/-- What is known of the branches of the children that come after `before`. -/
structure Follow (root : Description) (first : Nat) (before children : List Description)
    (branches : Children) : Prop where
  /-- Taken into the branch of the root they have the nodes of its tree. -/
  nodes : (branches.flatMap fun child =>
      (attached (first + root.number []) root.name child).nodes) =
    (positionsFrom before.length children).map (root.nodeAt first)
  /-- The productions among them have the names of the productions among the children. -/
  producers : (tops true branches).map Node.identifier =
    (children.filter Description.isProduction).map Description.name
  /-- The others have the numbers of the other children. -/
  inputs : (tops false branches).map Node.id =
    ((children.zipIdx before.length).filter (!·.1.isProduction)).map
      fun child => first + root.number [child.2]

/-- Branches that follow each other still do so with one more in front. -/
theorem Follow.cons {root child : Description} {first : Nat} {before others : List Description}
    {branch : Branch} {rest : Children}
    (split : root.childList = before ++ child :: others)
    (nodes : branch.nodes = child.positions.map (child.nodeAt (first + sizes before)))
    (follow : Follow root first (before ++ [child]) others rest) :
    Follow root first before (child :: others) ((child.isProduction, branch) :: rest) := by
  obtain ⟨_, top⟩ := parts_of_nodes nodes
  have numbered : branch.top.id = first + root.number [before.length] := by
    rw [top, Description.number_cons_of_split split child.nil_mem_positions, ← Nat.add_assoc]
    rfl
  have named : branch.top.identifier = child.name := by
    rw [top]
    rfl
  have length : (before ++ [child]).length = before.length + 1 := List.length_append
  constructor
  · rw [List.flatMap_cons, attached_nodes split nodes, follow.nodes, length,
      Description.positionsFrom_cons, List.map_append]
  · rw [tops_cons]
    cases produces : child.isProduction <;> simp [produces, named, follow.producers]
  · have later := follow.inputs
    rw [length] at later
    rw [tops_cons]
    cases produces : child.isProduction <;> simp [produces, numbered, later]

/-- One child after the other: each starts with the number after those of the trees before it. -/
theorem buildAll_follow {root : Description} {limit level first next after : Nat}
    {before children : List Description} {branches : Children}
    (split : root.childList = before ++ children)
    (each : ∀ child ∈ children, ∀ next branch, build limit level next child = .ok branch →
      branch.nodes = child.positions.map (child.nodeAt next))
    (counted : next = first + sizes before)
    (built : buildAll limit level next children = .ok (after, branches)) :
    after = first + sizes root.childList ∧ Follow root first before children branches := by
  induction children generalizing before next branches with
  | nil =>
    cases built
    refine ⟨?_, ⟨rfl, rfl, rfl⟩⟩
    rw [counted, split, List.append_nil]
  | cons child others ih =>
    obtain ⟨branch, rest, here, later, rfl⟩ := buildAll_cons_ok built
    have nodes := each child List.mem_cons_self next branch here
    subst counted
    -- The child joins those before it, whose trees give the next number.
    have moved : root.childList = (before ++ [child]) ++ others := by
      rw [split, List.append_assoc, List.singleton_append]
    have counted : branch.top.id + 1 = first + sizes (before ++ [child]) := by
      rw [(parts_of_nodes nodes).2, Description.nodeAt, Description.number_nil,
        Description.sizes_append, Description.sizes_cons, Description.size_eq,
        Description.sizes_nil]
      simp only
      omega
    obtain ⟨last, follow⟩ := ih moved
      (fun other member => each other (List.mem_cons_of_mem _ member)) counted later
    exact ⟨last, follow.cons split nodes⟩

/-! ## The whole branch -/

/-- The branch of a description without a list of children is one node. -/
theorem leaf_nodes {description : Description} (leaf : description.children = none) (next : Nat) :
    description.positions.map (description.nodeAt next) =
      [{ id := next, identifier := description.name, depth := description.depth,
         kind := .dataset, inputs := [], outputs := [] }] := by
  have empty : description.childList = [] := by
    rw [Description.childList, leaf]
    rfl
  have self : description.descriptionAt [] = description := Description.descriptionAt_eq rfl
  have producer : description.producer = datasetKind := by rw [Description.producer, leaf]
  have inputs : description.consumedAt [] = [] := by
    rw [Description.consumedAt, self, empty]
    rfl
  rw [Description.positions_eq, empty, Description.positionsFrom_nil, List.nil_append,
    List.map_singleton, Description.nodeAt, self, producer, inputs, Description.number_nil, empty]
  rfl

/-- The top node of a joined branch. -/
theorem join_top {description : Description} {first : Nat} {branches : Children}
    {children : List Description} (listed : description.children = some children)
    (follow : Follow description first [] children branches) :
    (join (first + description.number []) description.name description.depth branches).top =
      description.nodeAt first [] := by
  have whole : description.childList = children := by
    rw [Description.childList, listed]
    rfl
  have output : ((tops true branches).getLast?.map Node.identifier).getD "" =
      description.producer := by
    rw [← List.getLast?_map, follow.producers, List.getLast?_map, Description.producer, listed]
  have inputs : (tops false branches).map Node.id =
      (description.consumedAt []).map (first + description.number ·) := by
    rw [follow.inputs, Description.consumedAt, Description.descriptionAt_eq rfl, whole,
      List.map_map]
    rfl
  rw [join, output, inputs]
  rfl

/-- **Branches follow the tree.** The nodes of a branch that is built are those of the positions of
its description, in post-order. -/
theorem build_nodes {limit level next : Nat} {description : Description} {branch : Branch}
    (built : build limit level next description = .ok branch) :
    branch.nodes = description.positions.map (description.nodeAt next) := by
  induction description generalizing level next branch with
  | step description each =>
    obtain ⟨_, _, _, built⟩ := build_ok built
    cases listed : description.children with
    | none =>
      rw [listed] at built
      cases built
      exact (leaf_nodes listed next).symm
    | some children =>
      rw [listed, buildChildren] at built
      obtain ⟨⟨after, branches⟩, all, built⟩ := bind_ok.mp built
      have whole : description.childList = [] ++ children := by
        rw [Description.childList, listed]
        rfl
      obtain ⟨last, follow⟩ := buildAll_follow whole
        (fun child member next branch own => each child (whole ▸ member) own) rfl all
      rw [← Description.number_nil] at last
      subst last
      cases built
      have below := follow.nodes
      rw [List.length_nil] at below
      rw [Branch.nodes, join_top listed follow, Description.positions_eq, List.map_append,
        List.map_singleton, whole, List.nil_append, ← below]
      rfl

/-- Nothing consumes the top node of a branch when the branch is built. -/
theorem unconsumed_of_build {limit level next : Nat} {description : Description} {branch : Branch}
    (built : build limit level next description = .ok branch) : branch.top.kind.input = "" := by
  rw [(parts_of_nodes (build_nodes built)).2]
  rfl

end WorkflowChain.Branch
