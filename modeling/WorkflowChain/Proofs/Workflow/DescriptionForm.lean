import WorkflowChain.Proofs.Data.Fields
import WorkflowChain.Proofs.Workflow.Position

/-! # The form of descriptions

A description that was written as a value is decoded to the same tree, if the predicates of its
relations tell them apart: a production is written under one of its two spellings, so a consumption
with such a predicate would be decoded to a production (`Description.decode_inKeyOrder_encode`).
There is no such consumption in any tree that was decoded (`Description.isReadable_of_decode`) or
built (`Description.IsBuilt.isReadable`).
-/

namespace WorkflowChain

/-! ## Relations -/

namespace Relation

/-- A relation that its predicate stands for: no consumption has the predicate of a production. -/
structure IsReadable (relation : Relation) : Prop where
  notProduces : relation ≠ .consumes "produces"
  notOutput : relation ≠ .consumes "hasOutput"

/-- A relation that can be read is told from its text. -/
theorem ofText_toText {relation : Relation} (readable : relation.IsReadable) :
    ofText relation.toText = relation := by
  cases relation with
  | produces => rfl
  | consumes predicate =>
    refine if_neg ?_
    rintro (rfl | rfl)
    · exact readable.notProduces rfl
    · exact readable.notOutput rfl

/-- Whatever a predicate says, the relation for it can be read back. -/
theorem isReadable_ofText (predicate : String) : (ofText predicate).IsReadable := by
  unfold ofText
  split
  · exact ⟨nofun, nofun⟩
  next other =>
    rw [not_or] at other
    constructor
    · rintro ⟨⟩
      exact other.1 rfl
    · rintro ⟨⟩
      exact other.2 rfl

end Relation

namespace Description

/-! ## Reading as a record -/

/-- How a description is read as a record, its children included. -/
def reader : RecordReader Field Draft Description where
  name := "WorkflowDescription"
  fields := fields
  ofKey := Field.ofKey
  start := {}
  has := Draft.has
  take
    | .children, datum, draft => do return { draft with children := some (← decodeChildren datum) }
    | field, datum, draft => draft.take field datum
  finish _ draft := .ok draft.finish

theorem takeEntries_eq (entries : List (Datum × Datum)) (draft : Draft) :
    takeEntries entries draft = reader.takeEntries entries draft := by
  induction entries generalizing draft with
  | nil => rw [takeEntries, RecordReader.takeEntries]
  | cons entry rest ih =>
    obtain ⟨key, value⟩ := entry
    rw [takeEntries, RecordReader.takeEntries]
    change fieldOf fields Field.ofKey key >>= _ = fieldOf fields Field.ofKey key >>= _
    congr 1
    funext named
    cases named with
    | none => exact ih draft
    | some field =>
      -- Children are decoded apart from the other fields, but taken like them.
      change (if draft.has field then _ else _) = if draft.has field then _ else _
      refine if_congr Iff.rfl rfl ?_
      cases field <;> simp only [ih, reader, bind_assoc, pure_bind] <;> rfl

theorem decodeAll_eq_mapM (items : List Datum) : decodeAll items = items.mapM decode := by
  induction items with
  | nil => rw [decodeAll]; rfl
  | cons item rest ih => rw [decodeAll, ih, List.mapM_cons]

/-! ## The form of a description -/

theorem encodeAll_eq_map (children : List Description) : encodeAll children = children.map encode := by
  induction children with
  | nil => rfl
  | cons child rest ih => rw [encodeAll, ih, List.map_cons]

variable (description : Description)

/-- The values of the fields, as far as they are there. -/
def written : Table (Option Value) := [
  ("identifier", description.identifier.map .text),
  ("depth", some (.int description.depth)),
  ("relation", description.relation.map fun relation => .text relation.toText),
  ("children", description.children.map fun children => .list (children.map encode))]

theorem encode_eq_present : description.encode = .map (Table.present description.written) := by
  obtain ⟨identifier, depth, relation, children⟩ := description
  have below : encodeChildren children =
      ((children.map fun children => .list (children.map encode)).map
        (Prod.mk "children")).toList := by
    cases children with
    | none => rfl
    | some children => rw [encodeChildren, encodeAll_eq_map]; rfl
  simp only [encode, written, below, Table.present_cons, Table.present_nil, Option.map_map,
    Option.map_some, Option.toList_some, List.append_assoc, List.append_nil]
  rfl

/-- The values of the fields in key order. -/
def orderedWritten : Table (Option Value) := [
  ("children", description.children.map fun children =>
    .list (children.map fun child => child.encode.inKeyOrder)),
  ("depth", some (.int description.depth)),
  ("identifier", description.identifier.map .text),
  ("relation", description.relation.map fun relation => .text relation.toText)]

/-- In key order a description is the fields from which it is decoded. -/
theorem inKeyOrder_encode :
    description.encode.inKeyOrder = .map (Table.present description.orderedWritten) := by
  have distinct : description.written.keys.Nodup := by
    change ["identifier", "depth", "relation", "children"].Nodup
    decide
  have values : description.written.map (Prod.map id (Option.map Value.inKeyOrder)) = [
      ("identifier", description.identifier.map .text),
      ("depth", some (.int description.depth)),
      ("relation", description.relation.map fun relation => .text relation.toText),
      ("children", description.children.map fun children =>
        .list (children.map fun child => child.encode.inKeyOrder))] := by
    simp only [written, List.map_cons, List.map_nil, Prod.map_apply, id, Option.map_map,
      Option.map_some, Function.comp_def, Value.inKeyOrder, Value.inKeyOrderItems_eq_map,
      List.map_map]
  rw [encode_eq_present, Value.inKeyOrder_present distinct, values]
  congr 2
  simp only [Table.sorted, List.foldl_cons, List.foldl_nil, Table.place, String.reduceLT,
    String.reduceEq, ↓reduceIte, orderedWritten]

/-! ## Reading it back -/

/-- A tree that can be read back: depths are counts, and each relation is the one that its predicate
stands for. -/
inductive IsReadable : Description → Prop
  | intro {description : Description} (depth : description.depth < 0x10000000000000000)
    (relation : ∀ relation ∈ description.relation, relation.IsReadable)
    (children : ∀ child ∈ description.childList, child.IsReadable) : IsReadable description

/-- If each child is decoded to itself, then so are the children of a description. -/
theorem decodeChildren_map {children : List Description}
    (each : ∀ child ∈ children, decode (Datum.ofValue child.encode.inKeyOrder) = .ok child) :
    decodeChildren (Datum.ofValue (.list (children.map fun child => child.encode.inKeyOrder))) =
      .ok (some children) := by
  have all : decodeAll (Datum.ofItems (children.map fun child => child.encode.inKeyOrder)) =
      .ok children := by
    rw [decodeAll_eq_mapM, Datum.ofItems_eq_map, List.map_map, mapM_ok, List.forall₂_map_left_iff]
    exact List.forall₂_same.mpr each
  rw [Datum.ofValue, decodeChildren, all]
  rfl

/-- The fields are taken in key order, and each is added to those that were read before. -/
theorem takeEntries_orderedWritten {description : Description}
    (depth : description.depth < 0x10000000000000000)
    (relation : ∀ relation ∈ description.relation, relation.IsReadable)
    (below : ∀ children ∈ description.children, decodeChildren (Datum.ofValue
      (.list (children.map fun child => child.encode.inKeyOrder))) = .ok (some children)) :
    reader.takeEntries (Datum.ofEntries (Table.present description.orderedWritten)) reader.start =
      .ok { identifier := description.identifier.map some
            depth := some description.depth
            relation := description.relation.map some
            children := description.children.map some } := by
  let later (count : Nat) : List (Datum × Datum) :=
    Datum.ofEntries (Table.present (description.orderedWritten.drop count))
  let children : Draft := { children := description.children.map some }
  let count := { children with depth := some description.depth }
  let identifier := { count with identifier := description.identifier.map some }
  calc reader.takeEntries (later 0) {}
    _ = reader.takeEntries (later 1) children :=
      reader.takeEntries_present_cons .children some (fun children => { children })
        rfl rfl rfl fun own there => bind_ok.mpr ⟨_, below own there, rfl⟩
    _ = reader.takeEntries (later 2) count :=
      reader.takeEntries_cons rfl rfl (bind_ok.mpr ⟨_, Datum.decodeCount_ofValue depth, rfl⟩)
    _ = reader.takeEntries (later 3) identifier :=
      reader.takeEntries_present_cons .identifier some
        (fun identifier => { count with identifier }) rfl rfl rfl fun _ _ => rfl
    _ = .ok { identifier with relation := description.relation.map some } := by
      refine reader.takeEntries_present_cons .relation some
        (fun relation => { identifier with relation }) rfl rfl rfl fun own there => ?_
      exact congrArg (fun relation => Except.ok { identifier with relation := some (some relation) })
        (Relation.ofText_toText (relation own there))

/-- A description that can be read is decoded to itself, at every depth of the tree. -/
theorem decode_inKeyOrder_encode {root : Description} (readable : root.IsReadable) :
    decode (Datum.ofValue root.encode.inKeyOrder) = .ok root := by
  induction readable with
  | @intro description depth relation _ ih =>
    have below : ∀ children ∈ description.children, decodeChildren (Datum.ofValue
        (.list (children.map fun child => child.encode.inKeyOrder))) = .ok (some children) := by
      intro children there
      refine decodeChildren_map fun child member => ih child ?_
      rw [childList, there]
      exact member
    have whole : ∀ (α : Type) (content : Option α), (content.map some).getD none = content := by
      intro α content
      cases content <;> rfl
    rw [inKeyOrder_encode, Datum.ofValue, decode, takeEntries_eq]
    change Draft.finish <$> reader.takeEntries _ reader.start = _
    rw [takeEntries_orderedWritten depth relation below]
    change Except.ok (Draft.finish _) = _
    cases description
    simp only [Draft.finish, whole, Option.getD_some]

/-! ## Where readable trees come from -/

/-- What was read so far can be read back. -/
structure Draft.IsReadable (draft : Draft) : Prop where
  depth : ∀ depth ∈ draft.depth, depth < 0x10000000000000000
  relation : ∀ told ∈ draft.relation, ∀ relation ∈ told, relation.IsReadable
  children : ∀ told ∈ draft.children, ∀ child ∈ told.getD [], child.IsReadable

namespace Draft.IsReadable

variable {draft next : Draft}

theorem start : ({} : Draft).IsReadable := ⟨nofun, nofun, nofun⟩

/-- A draft that can be read is made into a description that can be read. -/
theorem finish (readable : draft.IsReadable) : draft.finish.IsReadable := by
  obtain ⟨identifier, depth, relation, children⟩ := draft
  constructor
  case depth =>
    cases depth with
    | none => exact Nat.two_pow_pos 64
    | some depth => exact readable.depth depth rfl
  case relation =>
    cases relation with
    | none => exact nofun
    | some relation => exact readable.relation relation rfl
  case children =>
    cases children with
    | none => exact fun _ none => nomatch none
    | some children => exact readable.children children rfl

/-- Children that can be read leave a draft readable. -/
theorem withChildren (readable : draft.IsReadable) {children : Option (List Description)}
    (each : ∀ child ∈ children.getD [], child.IsReadable) :
    IsReadable { draft with children := some children } :=
  { readable with children := fun _ same => Option.some.inj same ▸ each }

/-- Whatever field is taken up, a draft stays readable. -/
theorem take (readable : draft.IsReadable) {field : Field} {datum : Datum}
    (took : draft.take field datum = .ok next) : next.IsReadable := by
  cases field with
  | identifier =>
    obtain ⟨_, _, same⟩ := bind_ok.mp took
    cases same
    exact { readable with }
  | depth =>
    obtain ⟨depth, counted, same⟩ := bind_ok.mp took
    cases same
    exact { readable with depth := fun _ same => Option.some.inj same ▸ Datum.lt_of_decodeCount counted }
  | relation =>
    obtain ⟨relation, told, same⟩ := bind_ok.mp took
    cases same
    refine { readable with relation := fun _ same => Option.some.inj same ▸ ?_ }
    intro relation there
    rw [Option.mem_def.mp there] at told
    have told := Datum.decode_of_decodeOption told
    rw [map_eq_pure_bind] at told
    obtain ⟨predicate, _, same⟩ := bind_ok.mp told
    cases same
    exact Relation.isReadable_ofText predicate
  | children =>
    cases took
    exact readable

end Draft.IsReadable

mutual

/-- All trees that were decoded can be read back. -/
theorem isReadable_of_decode {datum : Datum} {root : Description}
    (decoded : decode datum = .ok root) : root.IsReadable := by
  cases datum with
  | map entries =>
    rw [decode, map_eq_pure_bind] at decoded
    obtain ⟨draft, taken, same⟩ := bind_ok.mp decoded
    cases same
    exact (isReadable_of_takeEntries .start taken).finish
  | list positional items =>
    cases positional with
    | true =>
      rw [decode] at decoded
      obtain ⟨draft, taken, decoded⟩ := bind_ok.mp decoded
      split at decoded <;> cases decoded
      exact (isReadable_of_takeItems .start taken).finish
    | false => cases decoded
  | tagged collection =>
    rw [decode] at decoded
    exact isReadable_of_decode decoded
  | leaf | scalar | void | broken =>
    unfold decode at decoded
    split at decoded <;> cases decoded
    exact Draft.IsReadable.start.finish

theorem isReadable_of_decodeChildren {datum : Datum} {children : Option (List Description)}
    (decoded : decodeChildren datum = .ok children) :
    ∀ child ∈ children.getD [], child.IsReadable := by
  cases datum with
  | list positional items =>
    rw [decodeChildren, map_eq_pure_bind] at decoded
    obtain ⟨own, all, same⟩ := bind_ok.mp decoded
    cases same
    exact isReadable_of_decodeAll all
  | tagged collection =>
    rw [decodeChildren] at decoded
    exact isReadable_of_decodeChildren decoded
  | map | leaf | scalar | void | broken =>
    unfold decodeChildren at decoded
    obtain ⟨absent, _, decoded⟩ := bind_ok.mp decoded
    split at decoded
    · cases decoded
      exact fun _ none => nomatch none
    · split at decoded <;> cases decoded
      exact fun _ none => nomatch none

theorem isReadable_of_decodeAll {items : List Datum} {children : List Description}
    (decoded : decodeAll items = .ok children) : ∀ child ∈ children, child.IsReadable := by
  cases items with
  | nil =>
    cases decoded
    exact fun _ none => nomatch none
  | cons item rest =>
    obtain ⟨first, own, decoded⟩ := bind_ok.mp decoded
    obtain ⟨others, later, same⟩ := bind_ok.mp decoded
    cases same
    exact List.forall_mem_cons.mpr ⟨isReadable_of_decode own, isReadable_of_decodeAll later⟩

/-- Whatever entries are taken up, a draft stays readable. -/
theorem isReadable_of_takeEntries {entries : List (Datum × Datum)} {draft next : Draft}
    (readable : draft.IsReadable) (taken : takeEntries entries draft = .ok next) :
    next.IsReadable := by
  cases entries with
  | nil =>
    cases taken
    exact readable
  | cons entry rest =>
    obtain ⟨key, value⟩ := entry
    rw [takeEntries] at taken
    obtain ⟨named, _, taken⟩ := bind_ok.mp taken
    cases named with
    | none => exact isReadable_of_takeEntries readable taken
    | some field =>
      dsimp only at taken
      split at taken
      · cases taken
      · split at taken
        · obtain ⟨children, below, taken⟩ := bind_ok.mp taken
          exact isReadable_of_takeEntries
            (readable.withChildren (isReadable_of_decodeChildren below)) taken
        · obtain ⟨between, took, taken⟩ := bind_ok.mp taken
          exact isReadable_of_takeEntries (readable.take took) taken

theorem isReadable_of_takeItems {fields : List Field} {items : List Datum} {draft next : Draft}
    (readable : draft.IsReadable) (taken : takeItems fields items draft = .ok next) :
    next.IsReadable := by
  cases fields with
  | nil =>
    rw [takeItems] at taken
    · cases taken
      exact readable
    · exact nofun
  | cons field fields =>
    cases items with
    | nil =>
      rw [takeItems] at taken
      · cases taken
        exact readable
      · exact nofun
    | cons item rest =>
      rw [takeItems] at taken
      split at taken
      · obtain ⟨children, below, taken⟩ := bind_ok.mp taken
        exact isReadable_of_takeItems
          (readable.withChildren (isReadable_of_decodeChildren below)) taken
      · obtain ⟨between, took, taken⟩ := bind_ok.mp taken
        exact isReadable_of_takeItems (readable.take took) taken

end

/-- What is built out of descriptions without children, with relations that are given by their
predicates. -/
inductive IsBuilt : Description → Prop
  | leaf (identifier : String) : IsBuilt (leaf identifier)
  | branch (identifier : String) : IsBuilt (branch identifier)
  | withDepth {description : Description} (built : IsBuilt description) {depth : Nat}
    (bound : depth < 0x10000000000000000) : IsBuilt (description.withDepth depth)
  | withRelation {description : Description} (built : IsBuilt description) (predicate : String) :
    IsBuilt (description.withRelation (.ofText predicate))
  | withChild {description child : Description} (built : IsBuilt description)
    (below : IsBuilt child) : IsBuilt (description.withChild child)
  | producedBy {description child : Description} (built : IsBuilt description)
    (below : IsBuilt child) : IsBuilt (description.producedBy child)
  | consuming {description child : Description} (built : IsBuilt description)
    (below : IsBuilt child) : IsBuilt (description.consuming child)

namespace IsReadable

variable {description child : Description}

theorem withRelation (readable : description.IsReadable) {relation : Relation}
    (told : relation.IsReadable) : (description.withRelation relation).IsReadable := by
  obtain ⟨depth, _, children⟩ := readable
  exact ⟨depth, fun _ same => Option.some.inj same ▸ told, children⟩

theorem withChild (readable : description.IsReadable) (below : child.IsReadable) :
    (description.withChild child).IsReadable := by
  obtain ⟨depth, relation, children⟩ := readable
  exact ⟨depth, relation, List.forall_mem_append.mpr ⟨children, List.forall_mem_singleton.mpr below⟩⟩

end IsReadable

/-- All trees that were built can be read back. -/
theorem IsBuilt.isReadable {root : Description} (built : root.IsBuilt) : root.IsReadable := by
  induction built with
  | leaf | branch => exact ⟨Nat.two_pow_pos 64, nofun, nofun⟩
  | withDepth _ bound ih =>
    obtain ⟨_, relation, children⟩ := ih
    exact ⟨bound, relation, children⟩
  | withRelation _ predicate ih => exact ih.withRelation (Relation.isReadable_ofText predicate)
  | withChild _ _ ih below => exact ih.withChild below
  | producedBy _ _ ih below => exact ih.withChild (below.withRelation ⟨nofun, nofun⟩)
  | consuming _ _ ih below =>
    exact ih.withChild (below.withRelation ⟨by decide, by decide⟩)

/-- **Descriptions are decoded to what was written.** Exactly the readable trees are decoded from
their own form to the same tree. All trees that were decoded are readable, and all that were
built. -/
theorem decode_form_eq_iff :
    (∀ root : Description,
      decode (Datum.ofValue root.encode.inKeyOrder) = .ok root ↔ root.IsReadable) ∧
    (∀ datum root, decode datum = .ok root → root.IsReadable) ∧
    ∀ root : Description, root.IsBuilt → root.IsReadable :=
  ⟨fun _ => ⟨isReadable_of_decode, decode_inKeyOrder_encode⟩, fun _ _ => isReadable_of_decode,
    fun _ => IsBuilt.isReadable⟩

/-- A tree in which an identifier, a relation and children are empty in one place and absent in
another. -/
def sparse : Description :=
  ⟨some "", 3, none, some [
    ⟨none, 0, some .produces, some []⟩,
    ⟨some "raw", 18446744073709551615, some (.consumes ""), none⟩]⟩

/-- The sparse tree, written with another spelling of its production and with a repeated default. -/
def sparseForm : Value :=
  .map [
    ("children", .list [
      .map [("predicate", .text "hasOutput"), ("children", .list [])],
      .map [("iri", .text "raw"), ("depth", .int 18446744073709551615), ("relation", .text ""),
        ("children", .null)]]),
    ("depth", .int 3),
    ("iri", .text ""),
    ("relation", .null)]

/-- A built tree in which a depth and a relation were set. -/
def annotated : Description :=
  ((branch "field").producedBy ((branch "solver").consuming ((leaf "raw").withDepth 2))).withRelation
    (.ofText "uses")

theorem isBuilt_annotated : annotated.IsBuilt :=
  .withRelation (.producedBy (.branch _) (.consuming (.branch _) (.withDepth (.leaf _) (by decide))))
    "uses"

/-- The sparse tree was decoded and the annotated one was built, so both are decoded from their own
forms. A consumption with the predicate of a production is not. -/
theorem decode_form_sparse :
    decode (Datum.ofValue sparseForm) = .ok sparse ∧
      decode (Datum.ofValue sparse.encode.inKeyOrder) = .ok sparse ∧ annotated.IsBuilt ∧
      decode (Datum.ofValue annotated.encode.inKeyOrder) = .ok annotated ∧
      decode (Datum.ofValue ((leaf "raw").withRelation (.consumes "hasOutput")).encode.inKeyOrder) ≠
        .ok ((leaf "raw").withRelation (.consumes "hasOutput")) := by
  obtain ⟨form, decoded, built⟩ := decode_form_eq_iff
  have read : decode (Datum.ofValue sparseForm) = .ok sparse := rfl
  refine ⟨read, (form sparse).mpr (decoded _ _ read), isBuilt_annotated,
    (form annotated).mpr (built _ isBuilt_annotated), fun same => ?_⟩
  obtain ⟨_, relation, _⟩ := (form _).mp same
  exact (relation _ rfl).notOutput rfl

end Description

end WorkflowChain
