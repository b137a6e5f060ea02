import WorkflowChain.Workflow.Description
import Mathlib.Data.List.Nodup

/-! # Positions in a tree of descriptions

A description stands in its tree at a position, which says which child is taken at each level from
the root down. `Description.positions` lists all positions in post-order: first those below each
child, child by child, and then the description itself. The number of a position is its place in
that list.

A position is listed exactly if there is a description at it (`Description.mem_positions`), and no
position is listed twice (`Description.nodup_positions`). The positions at and below a position have
consecutive numbers, of which its own is the greatest (`Description.prefix_iff_number`).
-/

namespace WorkflowChain

/-- Where a description stands in a tree: the child that is taken at each level. -/
abbrev Position := List Nat

namespace Description

/-- The descriptions directly below; a dataset has none. -/
def childList (description : Description) : List Description := description.children.getD []

/-- The description at a position. -/
def at? : Description → Position → Option Description
  | description, [] => some description
  | description, index :: rest => description.childList[index]?.bind (·.at? rest)

mutual

/-- All positions of a tree, in post-order. -/
def positions : Description → List Position
  | ⟨_, _, _, children⟩ => positionsBelow children ++ [[]]

/-- The positions below a description with the given children. -/
def positionsBelow : Option (List Description) → List Position
  | none => []
  | some children => positionsFrom 0 children

/-- The positions in the trees of some children, the first of which has the given index. -/
def positionsFrom (index : Nat) : List Description → List Position
  | [] => []
  | child :: rest => (positions child).map (index :: ·) ++ positionsFrom (index + 1) rest

end

/-- How many descriptions a tree has. -/
def size (description : Description) : Nat := description.positions.length

/-- How many descriptions some trees have together. -/
def sizes : List Description → Nat
  | [] => 0
  | child :: rest => child.size + sizes rest

/-- The number of a position: its place in post-order. -/
def number (root : Description) (position : Position) : Nat := root.positions.idxOf position

/-- What holds of a description whenever it holds of its children holds of every description. -/
@[induction_eliminator]
theorem treeInduction {motive : Description → Prop}
    (step : ∀ description, (∀ child ∈ description.childList, motive child) → motive description)
    (description : Description) : motive description := by
  refine Description.rec (motive_1 := motive)
    (motive_2 := fun children => ∀ child ∈ children.getD [], motive child)
    (motive_3 := fun children => ∀ child ∈ children, motive child) ?_ ?_ ?_ ?_ ?_ description
  · intro identifier depth relation children below
    exact step ⟨identifier, depth, relation, children⟩ below
  · intro child member
    exact absurd member List.not_mem_nil
  · intro children below
    exact below
  · intro child member
    exact absurd member List.not_mem_nil
  · intro first rest here below child member
    rcases List.mem_cons.mp member with same | later
    · exact same ▸ here
    · exact below child later

theorem at?_nil (root : Description) : root.at? [] = some root := rfl

theorem at?_cons (root : Description) (index : Nat) (rest : Position) :
    root.at? (index :: rest) = root.childList[index]?.bind (·.at? rest) := rfl

/-! ## The list of positions -/

theorem positionsFrom_nil (index : Nat) : positionsFrom index [] = [] := rfl

theorem positionsFrom_cons (index : Nat) (child : Description) (rest : List Description) :
    positionsFrom index (child :: rest) =
      child.positions.map (index :: ·) ++ positionsFrom (index + 1) rest := rfl

/-- The positions below come first, and the root last. -/
theorem positions_eq (root : Description) :
    root.positions = positionsFrom 0 root.childList ++ [[]] := by
  obtain ⟨_, _, _, children⟩ := root
  cases children <;> rfl

theorem positionsFrom_append (index : Nat) (left right : List Description) :
    positionsFrom index (left ++ right) =
      positionsFrom index left ++ positionsFrom (index + left.length) right := by
  induction left generalizing index with
  | nil => simp [positionsFrom_nil]
  | cons child rest ih =>
    simp only [List.cons_append, positionsFrom_cons, ih, List.append_assoc, List.length_cons]
    rw [Nat.add_right_comm, Nat.add_assoc]

/-- The positions of some trees lead into one of them. -/
theorem mem_positionsFrom {index : Nat} {children : List Description} {position : Position} :
    position ∈ positionsFrom index children ↔
      ∃ place child rest, children[place]? = some child ∧ rest ∈ child.positions ∧
        position = (index + place) :: rest := by
  induction children generalizing index with
  | nil => simp [positionsFrom_nil]
  | cons first others ih =>
    simp only [positionsFrom_cons, List.mem_append, List.mem_map, ih]
    constructor
    · rintro (⟨rest, member, rfl⟩ | ⟨place, child, rest, found, member, rfl⟩)
      · exact ⟨0, first, rest, rfl, member, rfl⟩
      · exact ⟨place + 1, child, rest, found, member, by rw [Nat.add_right_comm, Nat.add_assoc]⟩
    · rintro ⟨place, child, rest, found, member, rfl⟩
      cases place with
      | zero =>
        obtain rfl : first = child := by simpa using found
        exact Or.inl ⟨rest, member, rfl⟩
      | succ place =>
        exact Or.inr ⟨place, child, rest, found, member,
          by rw [Nat.add_right_comm, Nat.add_assoc]⟩

/-- **The list is complete.** A position is listed exactly if there is a description at it. -/
theorem mem_positions {root : Description} {position : Position} :
    position ∈ root.positions ↔ ∃ description, root.at? position = some description := by
  induction root generalizing position with
  | step root below =>
    rw [positions_eq, List.mem_append, mem_positionsFrom, List.mem_singleton]
    cases position with
    | nil => simp [at?_nil]
    | cons index rest =>
      simp only [at?_cons, Option.bind_eq_some_iff, reduceCtorEq, or_false, List.cons.injEq,
        Nat.zero_add]
      constructor
      · rintro ⟨_, child, _, found, member, rfl, rfl⟩
        obtain ⟨description, reached⟩ := (below child (List.mem_of_getElem? found)).mp member
        exact ⟨description, child, found, reached⟩
      · rintro ⟨description, child, found, reached⟩
        exact ⟨index, child, rest, found,
          (below child (List.mem_of_getElem? found)).mpr ⟨description, reached⟩, rfl, rfl⟩

theorem nil_mem_positions (root : Description) : [] ∈ root.positions :=
  mem_positions.mpr ⟨root, rfl⟩

private theorem nodup_positionsFrom {children : List Description}
    (each : ∀ child ∈ children, child.positions.Nodup) (index : Nat) :
    (positionsFrom index children).Nodup := by
  induction children generalizing index with
  | nil => exact List.nodup_nil
  | cons first others ih =>
    have ⟨here, later⟩ := List.forall_mem_cons.mp each
    refine List.Nodup.append (here.map List.cons_injective) (ih later (index + 1)) ?_
    intro position member other
    obtain ⟨rest, _, rfl⟩ := List.mem_map.mp member
    obtain ⟨place, _, _, _, _, same⟩ := mem_positionsFrom.mp other
    have := (List.cons.inj same).1
    omega

/-- **The list has no repetitions.** -/
theorem nodup_positions (root : Description) : root.positions.Nodup := by
  induction root with
  | step root below =>
    rw [positions_eq]
    refine List.Nodup.append (nodup_positionsFrom below 0) (List.nodup_singleton _) ?_
    intro position member last
    obtain ⟨_, _, _, _, _, rfl⟩ := mem_positionsFrom.mp member
    simp at last

/-! ## Positions below positions -/

theorem at?_append (root : Description) (position rest : Position) :
    root.at? (position ++ rest) = (root.at? position).bind (·.at? rest) := by
  induction position generalizing root with
  | nil => rfl
  | cons index below ih =>
    rw [List.cons_append, at?_cons, at?_cons, Option.bind_assoc]
    exact congrArg _ (funext fun child => ih child)

/-- The description at the position of a child. -/
theorem at?_child {root parent : Description} {position : Position}
    (found : root.at? position = some parent) (index : Nat) :
    root.at? (position ++ [index]) = parent.childList[index]? := by
  rw [at?_append, found]
  simp [at?_cons, at?_nil]

/-- Every position but the root is the position of a child. -/
theorem exists_parent {root description : Description} {position : Position} {index : Nat}
    (found : root.at? (position ++ [index]) = some description) :
    ∃ parent, root.at? position = some parent ∧ parent.childList[index]? = some description := by
  rw [at?_append, Option.bind_eq_some_iff] at found
  obtain ⟨parent, reached, chosen⟩ := found
  exact ⟨parent, reached, by simpa [at?_cons, at?_nil] using chosen⟩

/-! ## Numbers -/

@[simp] theorem sizes_nil : sizes [] = 0 := rfl

@[simp] theorem sizes_cons (child : Description) (rest : List Description) :
    sizes (child :: rest) = child.size + sizes rest := rfl

@[simp] theorem sizes_append (left right : List Description) :
    sizes (left ++ right) = sizes left + sizes right := by
  induction left with
  | nil => rw [List.nil_append, sizes_nil, Nat.zero_add]
  | cons child rest ih => rw [List.cons_append, sizes_cons, ih, sizes_cons, Nat.add_assoc]

/-- Children have as many positions as descriptions. -/
theorem length_positionsFrom (index : Nat) (children : List Description) :
    (positionsFrom index children).length = sizes children := by
  induction children generalizing index with
  | nil => rfl
  | cons first others ih =>
    rw [positionsFrom_cons, List.length_append, List.length_map, ih, sizes_cons, size]

theorem size_eq (root : Description) : root.size = sizes root.childList + 1 := by
  rw [size, positions_eq, List.length_append, length_positionsFrom, List.length_singleton]

/-- Numbers run up to the size of the tree. -/
theorem number_lt {root : Description} {position : Position}
    (member : position ∈ root.positions) : root.number position < root.size :=
  List.idxOf_lt_length_of_mem member

/-- A position stands at the place of its number. -/
theorem getElem?_number {root : Description} {position : Position}
    (member : position ∈ root.positions) :
    root.positions[root.number position]? = some position :=
  List.getElem?_idxOf member

/-- What stands at a place has the place as its number. -/
theorem number_of_getElem? {root : Description} {place : Nat} {position : Position}
    (found : root.positions[place]? = some position) : root.number position = place := by
  obtain ⟨bound, rfl⟩ := List.getElem?_eq_some_iff.mp found
  exact root.nodup_positions.idxOf_getElem place bound

/-- Numbers tell positions apart. -/
theorem number_inj {root : Description} {position other : Position}
    (member : position ∈ root.positions) :
    root.number position = root.number other ↔ position = other :=
  List.idxOf_inj member

/-- Positions are listed in the order of their numbers. -/
theorem positions_pairwise (root : Description) :
    root.positions.Pairwise fun earlier later => root.number earlier < root.number later := by
  rw [List.pairwise_iff_getElem]
  intro first second firstBound secondBound before
  rw [number_of_getElem? (List.getElem?_eq_getElem firstBound),
    number_of_getElem? (List.getElem?_eq_getElem secondBound)]
  exact before

/-- The root has the greatest number. -/
theorem number_nil (root : Description) : root.number [] = sizes root.childList := by
  apply number_of_getElem?
  rw [positions_eq, List.getElem?_append_right (Nat.le_of_eq (length_positionsFrom 0 _)),
    length_positionsFrom, Nat.sub_self]
  rfl

/-- Numbers below a child count on from the trees of the children before it. -/
theorem number_cons_of_split {root child : Description} {before after : List Description}
    {rest : Position} (split : root.childList = before ++ child :: after)
    (member : rest ∈ child.positions) :
    root.number (before.length :: rest) = sizes before + child.number rest := by
  have inside : (child.positions.map (before.length :: ·))[child.number rest]? =
      some (before.length :: rest) := by
    rw [List.getElem?_map, getElem?_number member, Option.map_some]
  have bound := (List.getElem?_eq_some_iff.mp inside).1
  apply number_of_getElem?
  rw [positions_eq, split, positionsFrom_append, positionsFrom_cons, Nat.zero_add,
    List.append_assoc, List.append_assoc, ← length_positionsFrom 0 before,
    List.getElem?_append_right (Nat.le_add_right _ _), Nat.add_sub_cancel_left,
    List.getElem?_append_left bound, inside]

/-- The numbers below a child of the given index. -/
theorem number_cons {root child : Description} {index : Nat} {rest : Position}
    (found : root.childList[index]? = some child) (member : rest ∈ child.positions) :
    root.number (index :: rest) = sizes (root.childList.take index) + child.number rest := by
  obtain ⟨bound, rfl⟩ := List.getElem?_eq_some_iff.mp found
  have split : root.childList = root.childList.take index ++
      (root.childList[index] :: root.childList.drop (index + 1)) := by
    rw [List.getElem_cons_drop, List.take_append_drop]
  have place := number_cons_of_split split member
  rwa [List.length_take_of_le (Nat.le_of_lt bound)] at place

/-- The tree at a position is numbered as it is on its own, from some number on, and its root has
the greatest of these numbers. -/
theorem number_append {root description : Description} {position : Position}
    (found : root.at? position = some description) :
    ∃ first, first + description.size = root.number position + 1 ∧
      ∀ rest ∈ description.positions,
        root.number (position ++ rest) = first + description.number rest := by
  induction position generalizing root with
  | nil =>
    obtain rfl : root = description := Option.some.inj found
    exact ⟨0, by rw [Nat.zero_add, number_nil, size_eq], fun rest _ => (Nat.zero_add _).symm⟩
  | cons index below ih =>
    obtain ⟨child, chosen, reached⟩ := Option.bind_eq_some_iff.mp found
    obtain ⟨first, last, inside⟩ := ih reached
    refine ⟨sizes (root.childList.take index) + first, ?_, ?_⟩
    · rw [number_cons chosen (mem_positions.mpr ⟨_, reached⟩), Nat.add_assoc, last, Nat.add_assoc]
    · intro rest member
      have deeper : below ++ rest ∈ child.positions := by
        rw [mem_positions, at?_append, reached]
        exact mem_positions.mp member
      rw [List.cons_append, number_cons chosen deeper, inside rest member, Nat.add_assoc]

/-- **A tree is a block of numbers.** The positions at and below a position are those whose numbers
lie in an interval as long as the tree, which ends with the number of the position. -/
theorem prefix_iff_number {root description : Description} {position other : Position}
    (found : root.at? position = some description) (member : other ∈ root.positions) :
    position <+: other ↔
      root.number position < root.number other + description.size ∧
        root.number other ≤ root.number position := by
  obtain ⟨first, last, inside⟩ := number_append found
  -- The numbers of the tree at the position are `first` to `first + description.size - 1`, so that
  -- a position with a number among them is found by its place in the list of that tree.
  constructor
  · rintro ⟨rest, rfl⟩
    have deeper : rest ∈ description.positions := by
      rw [mem_positions, at?_append, found] at member
      exact mem_positions.mpr member
    have bound := number_lt deeper
    have place := inside rest deeper
    omega
  · rintro ⟨lower, upper⟩
    have bound : root.number other - first < description.positions.length := by
      change _ < description.size
      omega
    have deeper := List.getElem_mem bound
    have place := inside _ deeper
    rw [number_of_getElem? (List.getElem?_eq_getElem bound)] at place
    refine ⟨description.positions[root.number other - first], ?_⟩
    rw [← number_inj (mem_positions.mpr ?_), place]
    · omega
    · rw [at?_append, found]
      exact mem_positions.mp deeper

/-- A description comes after those below it. -/
theorem number_child_lt {root description : Description} {position : Position} {index : Nat}
    (found : root.at? (position ++ [index]) = some description) :
    root.number (position ++ [index]) < root.number position := by
  obtain ⟨parent, reached, _⟩ := exists_parent found
  have member := mem_positions.mpr ⟨_, found⟩
  have inside := (prefix_iff_number reached member).mp (List.prefix_append _ _)
  have other : root.number (position ++ [index]) ≠ root.number position := by
    rw [Ne, number_inj member]
    simp
  omega

/-- The trees of a child and of its earlier siblings are among those before a later sibling. -/
private theorem sizes_take_lt {children : List Description} {earlier later : Nat}
    {child : Description} (found : children[earlier]? = some child) (before : earlier < later) :
    sizes (children.take earlier) + child.size ≤ sizes (children.take later) := by
  obtain ⟨bound, rfl⟩ := List.getElem?_eq_some_iff.mp found
  have upTo : (children.take later).take (earlier + 1) = children.take (earlier + 1) := by
    rw [List.take_take, Nat.min_eq_left before]
  rw [← List.take_append_drop (earlier + 1) (children.take later), upTo, sizes_append,
    List.take_succ_eq_append_getElem bound, sizes_append, sizes_cons, sizes_nil]
  omega

/-- Everything at and below a child comes before everything at and below a later one. -/
theorem number_sibling_lt {root : Description} {position left right : Position}
    {earlier later : Nat} (before : earlier < later)
    (first : position ++ earlier :: left ∈ root.positions)
    (second : position ++ later :: right ∈ root.positions) :
    root.number (position ++ earlier :: left) < root.number (position ++ later :: right) := by
  obtain ⟨_, found⟩ := mem_positions.mp first
  rw [at?_append, Option.bind_eq_some_iff] at found
  obtain ⟨parent, reached, _⟩ := found
  have inside : ∀ rest, position ++ rest ∈ root.positions → rest ∈ parent.positions := by
    intro rest member
    rw [mem_positions, at?_append, reached] at member
    exact mem_positions.mpr member
  obtain ⟨start, _, numbered⟩ := number_append reached
  rw [numbered _ (inside _ first), numbered _ (inside _ second)]
  obtain ⟨_, found⟩ := mem_positions.mp (inside _ first)
  obtain ⟨child, chosen, deeper⟩ := Option.bind_eq_some_iff.mp found
  obtain ⟨_, found⟩ := mem_positions.mp (inside _ second)
  obtain ⟨other, chosenLater, deeperLater⟩ := Option.bind_eq_some_iff.mp found
  have member := mem_positions.mpr ⟨_, deeper⟩
  have bound := number_lt member
  have order := sizes_take_lt chosen before
  rw [number_cons chosen member, number_cons chosenLater (mem_positions.mpr ⟨_, deeperLater⟩)]
  omega

end Description

end WorkflowChain
