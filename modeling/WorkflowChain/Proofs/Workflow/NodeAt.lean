import WorkflowChain.Proofs.Workflow.Position
import WorkflowChain.Workflow.Graph

/-! # The node at a position

What the graph of a description has to hold for the description at each position: a node that is
named, produced and consumed as the tree says, with the numbers of other positions in place of
references to them. `Description.nodeAt` reads this off the tree, from the position alone.

`Description.nodeAt_cons` compares the nodes of a tree with those of the tree of a child: they are
numbered on from the trees of the children before it, and only the node of the child itself knows
of what is above it.
-/

namespace WorkflowChain.Description

/-- The identifier; an absent one counts as empty. -/
def name (description : Description) : String := description.identifier.getD ""

/-- What produces the artifact of a description: without a list of children it is a dataset, else
the last child that is a production produces it, or nothing does. -/
def producer (description : Description) : String :=
  match description.children with
  | none => datasetKind
  | some children => ((children.filter isProduction).getLast?.map name).getD ""

/-- The description at a position, or the root if there is none. -/
def descriptionAt (root : Description) (position : Position) : Description :=
  (root.at? position).getD root

/-- Whether the description at a position produces the one above it; the root does not. -/
def isProductionAt (root : Description) (position : Position) : Bool :=
  position ≠ [] && (root.descriptionAt position).isProduction

/-- The positions of the children that the description at a position consumes, in order. -/
def consumedAt (root : Description) (position : Position) : List Position :=
  ((root.descriptionAt position).childList.zipIdx.filter (!·.1.isProduction)).map
    fun child => position ++ [child.2]

/-- The position that the description at a position produces, if there is one. -/
def producedAt (root : Description) (position : Position) : List Position :=
  if root.isProductionAt position then [position.dropLast] else []

/-- What consumes the artifact of the description at a position: the one above it, unless the
description is a production or the root. -/
def consumerAt (root : Description) (position : Position) : String :=
  if position = [] || root.isProductionAt position then ""
  else (root.descriptionAt position.dropLast).name

/-- The node of the description at a position, in a graph whose first number is `first`. -/
def nodeAt (root : Description) (first : Nat) (position : Position) : Node where
  id := first + root.number position
  identifier := (root.descriptionAt position).name
  depth := (root.descriptionAt position).depth
  kind :=
    { output := (root.descriptionAt position).producer
      input := root.consumerAt position }
  inputs := (root.consumedAt position).map (first + root.number ·)
  outputs := (root.producedAt position).map (first + root.number ·)

/-- The positions of all productions, in post-order. -/
def productions (root : Description) : List Position :=
  root.positions.filter root.isProductionAt

/-! ## What is known at a position -/

theorem descriptionAt_eq {root description : Description} {position : Position}
    (found : root.at? position = some description) :
    root.descriptionAt position = description := by
  rw [descriptionAt, found, Option.getD_some]

theorem at?_descriptionAt {root : Description} {position : Position}
    (member : position ∈ root.positions) :
    root.at? position = some (root.descriptionAt position) := by
  obtain ⟨description, found⟩ := mem_positions.mp member
  rw [found, descriptionAt_eq found]

/-- A node consumes the children that are no productions. -/
theorem mem_consumedAt {root : Description} {position below : Position} :
    below ∈ root.consumedAt position ↔
      ∃ index child, (root.descriptionAt position).childList[index]? = some child ∧
        child.isProduction = false ∧ below = position ++ [index] := by
  simp only [consumedAt, List.mem_map, List.mem_filter, Prod.exists, List.mem_zipIdx_iff_getElem?,
    Bool.not_eq_true']
  constructor
  · rintro ⟨child, index, ⟨found, consumed⟩, rfl⟩
    exact ⟨index, child, found, consumed, rfl⟩
  · rintro ⟨index, child, found, consumed, rfl⟩
    exact ⟨child, index, ⟨found, consumed⟩, rfl⟩

theorem consumedAt_subset {root : Description} {position : Position}
    (member : position ∈ root.positions) : root.consumedAt position ⊆ root.positions := by
  intro below consumed
  obtain ⟨index, child, found, _, rfl⟩ := mem_consumedAt.mp consumed
  rw [mem_positions, at?_child (at?_descriptionAt member), found]
  exact ⟨child, rfl⟩

theorem nodup_consumedAt (root : Description) (position : Position) :
    (root.consumedAt position).Nodup := by
  have numbered : ((root.descriptionAt position).childList.zipIdx.map Prod.snd).Nodup := by
    rw [List.zipIdx_map_snd]
    exact List.nodup_range'
  unfold consumedAt
  refine List.Nodup.map_on ?_ (numbered.of_map.filter _)
  rintro ⟨child, index⟩ member ⟨other, place⟩ listed same
  obtain rfl : index = place := (List.cons.inj (List.append_cancel_left same)).1
  have found := List.mem_zipIdx_iff_getElem?.mp (List.mem_of_mem_filter member)
  have again := List.mem_zipIdx_iff_getElem?.mp (List.mem_of_mem_filter listed)
  exact congrArg (·, index) (Option.some.inj (found.symm.trans again))

theorem nodup_producedAt (root : Description) (position : Position) :
    (root.producedAt position).Nodup := by
  rw [producedAt]
  split
  · exact List.nodup_singleton _
  · exact List.nodup_nil

/-- What a description consumes comes before it. -/
theorem number_lt_of_mem_consumedAt {root : Description} {position below : Position}
    (member : position ∈ root.positions) (consumed : below ∈ root.consumedAt position) :
    root.number below < root.number position := by
  have inside := consumedAt_subset member consumed
  obtain ⟨index, _, _, _, rfl⟩ := mem_consumedAt.mp consumed
  obtain ⟨_, found⟩ := mem_positions.mp inside
  exact number_child_lt found

/-- Above a position of a tree there is another, up to the root. -/
theorem dropLast_mem_positions {root : Description} {position : Position}
    (member : position ∈ root.positions) : position.dropLast ∈ root.positions := by
  rcases List.eq_nil_or_concat' position with rfl | ⟨above, index, rfl⟩
  · exact member
  · obtain ⟨description, found⟩ := mem_positions.mp member
    obtain ⟨parent, reached, _⟩ := exists_parent found
    rw [List.dropLast_concat]
    exact mem_positions.mpr ⟨parent, reached⟩

theorem producedAt_subset {root : Description} {position : Position}
    (member : position ∈ root.positions) : root.producedAt position ⊆ root.positions := by
  intro above produced
  rw [producedAt] at produced
  split at produced
  · exact List.mem_singleton.mp produced ▸ dropLast_mem_positions member
  · exact absurd produced List.not_mem_nil

theorem productions_subset (root : Description) : root.productions ⊆ root.positions :=
  fun _ => List.mem_of_mem_filter

/-- Productions are listed in the order of their numbers. -/
theorem productions_pairwise (root : Description) :
    root.productions.Pairwise fun earlier later => root.number earlier < root.number later :=
  root.positions_pairwise.filter _

/-- Of two productions, the one with the smaller number comes first. -/
theorem place_lt_of_number_lt {root : Description} {earlier later : Position} {first second : Nat}
    (found : root.productions[first]? = some earlier)
    (other : root.productions[second]? = some later)
    (before : root.number earlier < root.number later) : first < second := by
  obtain ⟨firstBound, rfl⟩ := List.getElem?_eq_some_iff.mp found
  obtain ⟨secondBound, rfl⟩ := List.getElem?_eq_some_iff.mp other
  rcases Nat.lt_trichotomy first second with less | rfl | greater
  · exact less
  · exact absurd before (Nat.lt_irrefl _)
  · have after := List.pairwise_iff_getElem.mp root.productions_pairwise second first secondBound
      firstBound greater
    exact absurd before (Nat.lt_asymm after)

/-- A child that produces its parent is a production. -/
theorem mem_productions {root child : Description} {position : Position} {index : Nat}
    (found : root.at? (position ++ [index]) = some child) (produces : child.isProduction = true) :
    position ++ [index] ∈ root.productions := by
  refine List.mem_filter.mpr ⟨mem_positions.mpr ⟨_, found⟩, ?_⟩
  simp [isProductionAt, descriptionAt_eq found, produces]

/-- No production has a greater number than the last one. -/
theorem number_le_of_mem_productions {root : Description} {position other : Position}
    (last : root.productions.getLast? = some position) (member : other ∈ root.productions) :
    root.number other ≤ root.number position := by
  obtain ⟨earlier, split⟩ := List.getLast?_eq_some_iff.mp last
  have ordered := root.productions_pairwise
  rw [split, List.pairwise_append] at ordered
  rw [split, List.mem_append, List.mem_singleton] at member
  rcases member with member | rfl
  · exact Nat.le_of_lt (ordered.2.2 other member _ (List.mem_singleton.mpr rfl))
  · exact Nat.le_refl _

/-- A production stands below the description that it produces. -/
theorem exists_above_of_mem_productions {root : Description} {position : Position}
    (member : position ∈ root.productions) : ∃ above index, position = above ++ [index] := by
  rcases List.eq_nil_or_concat' position with rfl | child
  · have produces := (List.mem_filter.mp member).2
    simp [isProductionAt] at produces
  · exact child

/-- What the last production produces does not produce anything itself. -/
theorem producedAt_dropLast {root : Description} {position : Position}
    (last : root.productions.getLast? = some position) :
    root.producedAt position.dropLast = [] := by
  have listed := List.mem_of_getLast? last
  have member := root.productions_subset listed
  refine if_neg fun produces => ?_
  obtain ⟨above, index, rfl⟩ := exists_above_of_mem_productions listed
  rw [List.dropLast_concat] at produces
  obtain ⟨_, found⟩ := mem_positions.mp member
  have before := number_child_lt found
  have parent := dropLast_mem_positions member
  rw [List.dropLast_concat] at parent
  have upTo := number_le_of_mem_productions last (List.mem_filter.mpr ⟨parent, produces⟩)
  omega

/-- A producer that is named and no dataset is that of a child, which is a production. -/
theorem exists_production {description : Description} (tool : description.producer ≠ datasetKind)
    (named : description.producer ≠ "") :
    ∃ (index : Nat) (child : Description), description.childList[index]? = some child ∧
      child.isProduction = true ∧ child.name = description.producer := by
  unfold producer at tool named ⊢
  cases listed : description.children with
  | none =>
    rw [listed] at tool
    exact absurd rfl tool
  | some children =>
    rw [listed] at named
    dsimp only at named ⊢
    cases last : (children.filter isProduction).getLast? with
    | none =>
      rw [last] at named
      exact absurd rfl named
    | some child =>
      obtain ⟨member, produces⟩ := List.mem_filter.mp (List.mem_of_getLast? last)
      obtain ⟨index, found⟩ := List.mem_iff_getElem?.mp member
      refine ⟨index, child, ?_, produces, rfl⟩
      rw [childList, listed]
      exact found

/-- A child is a production at its position exactly if its relation says so. -/
theorem isProductionAt_child {root child : Description} {position : Position} {index : Nat}
    (found : root.at? (position ++ [index]) = some child) :
    root.isProductionAt (position ++ [index]) = child.isProduction := by
  simp [isProductionAt, descriptionAt_eq found]

/-- The last production is the producer that the description above it counts: children after it
would come later. -/
theorem producer_of_last {root parent child : Description} {above : Position} {index : Nat}
    (last : root.productions.getLast? = some (above ++ [index]))
    (reached : root.at? above = some parent) (found : parent.childList[index]? = some child) :
    parent.producer = child.name := by
  have located : root.at? (above ++ [index]) = some child := by rw [at?_child reached, found]
  have produces : child.isProduction = true := by
    have listed := (List.mem_filter.mp (List.mem_of_getLast? last)).2
    rwa [isProductionAt_child located] at listed
  have later : ∀ sibling ∈ parent.childList.drop (index + 1), ¬sibling.isProduction = true := by
    intro sibling member also
    obtain ⟨place, chosen⟩ := List.mem_iff_getElem?.mp member
    rw [List.getElem?_drop] at chosen
    have other : root.at? (above ++ [index + 1 + place]) = some sibling := by
      rw [at?_child reached, chosen]
    have upTo := number_le_of_mem_productions last (mem_productions other also)
    have after := number_sibling_lt (show index < index + 1 + place by omega)
      (mem_positions.mpr ⟨_, located⟩) (mem_positions.mpr ⟨_, other⟩)
    omega
  have split : parent.childList =
      parent.childList.take index ++ child :: parent.childList.drop (index + 1) := by
    obtain ⟨bound, rfl⟩ := List.getElem?_eq_some_iff.mp found
    rw [List.getElem_cons_drop, List.take_append_drop]
  have picked : (parent.childList.filter isProduction).getLast? = some child := by
    rw [split, List.filter_append, List.filter_cons_of_pos produces,
      List.filter_eq_nil_iff.mpr later, List.getLast?_concat]
  cases listed : parent.children with
  | none => simp [childList, listed] at found
  | some children =>
    rw [childList, listed, Option.getD_some] at picked
    rw [producer, listed]
    dsimp only
    rw [picked, Option.map_some, Option.getD_some]

/-- A production produces its parent, and another child nothing. -/
theorem producedAt_child {root child : Description} {position : Position} {index : Nat}
    (found : root.at? (position ++ [index]) = some child) :
    root.producedAt (position ++ [index]) = if child.isProduction then [position] else [] := by
  rw [producedAt, isProductionAt_child found, List.dropLast_concat]

/-- A child is consumed by its parent unless it produces it. -/
theorem consumerAt_child {root child : Description} {position : Position} {index : Nat}
    (found : root.at? (position ++ [index]) = some child) :
    root.consumerAt (position ++ [index]) =
      if child.isProduction then "" else (root.descriptionAt position).name := by
  rw [consumerAt, isProductionAt_child found, List.dropLast_concat]
  simp

/-! ## The tree of a child -/

section Below

variable {root child : Description} {index : Nat} (chosen : root.childList[index]? = some child)
  {rest : Position} (member : rest ∈ child.positions)

include chosen member

theorem descriptionAt_cons : root.descriptionAt (index :: rest) = child.descriptionAt rest := by
  apply descriptionAt_eq
  rw [at?_cons, chosen, Option.bind_some, at?_descriptionAt member]

/-- Below a child nodes consume what they consume in the tree of the child. -/
theorem consumedAt_cons :
    root.consumedAt (index :: rest) = (child.consumedAt rest).map (index :: ·) := by
  rw [consumedAt, descriptionAt_cons chosen member, consumedAt, List.map_map]
  rfl

theorem isProductionAt_cons (inner : rest ≠ []) :
    root.isProductionAt (index :: rest) = child.isProductionAt rest := by
  simp [isProductionAt, descriptionAt_cons chosen member, inner]

theorem producedAt_cons (inner : rest ≠ []) :
    root.producedAt (index :: rest) = (child.producedAt rest).map (index :: ·) := by
  rw [producedAt, producedAt, isProductionAt_cons chosen member inner,
    List.dropLast_cons_of_ne_nil inner]
  split <;> rfl

theorem consumerAt_cons (inner : rest ≠ []) :
    root.consumerAt (index :: rest) = child.consumerAt rest := by
  rw [consumerAt, consumerAt, isProductionAt_cons chosen member inner,
    List.dropLast_cons_of_ne_nil inner,
    descriptionAt_cons chosen (dropLast_mem_positions member)]
  simp [inner]

end Below

section Split

variable {root child : Description} {before after : List Description}
  (split : root.childList = before ++ child :: after)
  {rest : Position} (member : rest ∈ child.positions)

include split

theorem childList_of_split : root.childList[before.length]? = some child := by
  simp [split]

/-- Numbers of positions in the tree of a child count on from the trees before it. -/
theorem map_number_cons {positions : List Position} (known : positions ⊆ child.positions)
    (first : Nat) :
    (positions.map (before.length :: ·)).map (first + root.number ·) =
      positions.map (first + sizes before + child.number ·) := by
  rw [List.map_map]
  apply List.map_congr_left
  intro position listed
  rw [Function.comp_apply, number_cons_of_split split (known listed), Nat.add_assoc]

include member

/-- Below a child nodes are numbered on, and the node of the child itself has what is above it in
addition. -/
theorem nodeAt_cons (first : Nat) :
    root.nodeAt first (before.length :: rest) =
      { child.nodeAt (first + sizes before) rest with
        kind :=
          { output := (child.descriptionAt rest).producer
            input := root.consumerAt (before.length :: rest) }
        outputs := (root.producedAt (before.length :: rest)).map (first + root.number ·) } := by
  have chosen := childList_of_split split
  have inputs := map_number_cons split (consumedAt_subset member) first
  rw [nodeAt, nodeAt, descriptionAt_cons chosen member, consumedAt_cons chosen member, inputs,
    number_cons_of_split split member, Nat.add_assoc]

/-- The nodes below a child are those of its own tree, numbered after the trees of earlier siblings.
-/
theorem nodeAt_cons_of_ne_nil (inner : rest ≠ []) (first : Nat) :
    root.nodeAt first (before.length :: rest) = child.nodeAt (first + sizes before) rest := by
  have chosen := childList_of_split split
  have outputs := map_number_cons split (producedAt_subset member) first
  rw [nodeAt_cons split member, consumerAt_cons chosen member inner,
    producedAt_cons chosen member inner, outputs]
  rfl

end Split

end WorkflowChain.Description
