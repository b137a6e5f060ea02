import WorkflowChain.Data.Decode
import WorkflowChain.Proofs.Success
import Mathlib.Data.List.Basic
import Mathlib.Data.List.Perm.Basic

/-! # Values in key order

Tables are brought into the order of their keys by placing one entry after the other. If the keys
are distinct, then the result has the same entries, and it is the only table in key order that has
them (`Table.sorted_eq_of_perm`).

Reading a value brings the keys of all its maps in order (`Value.IsFinite.toValue?_ofValue`). After
that, reading it again changes nothing (`Value.IsRead.toValue?_ofValue`), and all values that were
read are so (`Datum.isRead_of_toValue?`).
-/

namespace WorkflowChain

variable {α β : Type}

namespace Table

/-! ## Ascending keys -/

/-- The keys ascend, so that each of them is there once. -/
def Ascending (table : Table α) : Prop := table.keys.Pairwise (· < ·)

instance (table : Table α) : Decidable table.Ascending :=
  inferInstanceAs (Decidable (List.Pairwise _ _))

variable {table other : Table α} {key : String}

/-- A table in key order has each key once. -/
theorem Ascending.nodup (ascending : table.Ascending) : table.keys.Nodup :=
  List.Pairwise.imp (fun less => Std.ne_of_lt less) ascending

/-- Two tables in key order with the same entries are equal. -/
theorem Ascending.eq_of_perm (ascending : table.Ascending) (others : other.Ascending)
    (perm : table.Perm other) : table = other := by
  refine perm.eq_of_pairwise (fun first second _ _ less greater => ?_)
    (List.pairwise_map.mp ascending) (List.pairwise_map.mp others)
  exact absurd (String.lt_trans less greater) (String.lt_irrefl _)

theorem mem_keys_place {wanted : String} (value : α) :
    wanted ∈ (place key value table).keys ↔ wanted = key ∨ wanted ∈ table.keys := by
  induction table with
  | nil => simp [place, keys]
  | cons entry rest ih =>
    obtain ⟨known, old⟩ := entry
    rw [place]
    split
    · exact List.mem_cons
    · split
      next same =>
        subst same
        change wanted ∈ known :: keys rest ↔ _ ∨ wanted ∈ known :: keys rest
        rw [List.mem_cons, or_self_left]
      · change wanted ∈ known :: keys (place key value rest) ↔ _ ∨ wanted ∈ known :: keys rest
        rw [List.mem_cons, List.mem_cons, ih, or_left_comm]

/-- A table stays in key order when an entry is placed in it. -/
theorem Ascending.place (ascending : table.Ascending) (value : α) :
    (place key value table).Ascending := by
  induction table with
  | nil => exact List.pairwise_singleton ..
  | cons entry rest ih =>
    obtain ⟨known, old⟩ := entry
    have ⟨least, others⟩ := List.pairwise_cons.mp ascending
    rw [Table.place]
    split
    next less =>
      refine List.pairwise_cons.mpr ⟨fun later member => ?_, ascending⟩
      rcases List.mem_cons.mp member with rfl | member
      · exact less
      · exact String.lt_trans less (least later member)
    next notLess =>
      split
      next same =>
        subst same
        exact ascending
      next differ =>
        refine List.pairwise_cons.mpr ⟨fun later member => ?_, ih others⟩
        rcases (mem_keys_place value).mp member with rfl | member
        · exact Std.lt_of_le_of_ne (String.not_lt.mp notLess) differ
        · exact least later member

/-- Whatever the entries are, the keys ascend in the end. -/
theorem ascending_sorted (entries : List (String × α)) : (sorted entries).Ascending :=
  List.foldlRecOn (motive := Ascending) entries _ List.Pairwise.nil
    fun _ ascending entry _ => ascending.place entry.2

/-! ## The same entries -/

theorem mem_of_mem_place {entry : String × α} {value : α}
    (member : entry ∈ place key value table) : entry = (key, value) ∨ entry ∈ table := by
  induction table with
  | nil => exact .inl (List.mem_singleton.mp member)
  | cons first rest ih =>
    rw [place] at member
    split at member
    · exact List.mem_cons.mp member
    · split at member
      · exact (List.mem_cons.mp member).imp_right (List.mem_cons_of_mem _)
      · rcases List.mem_cons.mp member with rfl | member
        · exact .inr List.mem_cons_self
        · exact (ih member).imp_right (List.mem_cons_of_mem _)

theorem mem_of_mem_put {entry : String × α} {value : α} (member : entry ∈ put key value table) :
    entry = (key, value) ∨ entry ∈ table := by
  induction table with
  | nil => exact .inl (List.mem_singleton.mp member)
  | cons first rest ih =>
    rw [put] at member
    split at member
    next same =>
      subst same
      exact (List.mem_cons.mp member).imp_right (List.mem_cons_of_mem _)
    · rcases List.mem_cons.mp member with rfl | member
      · exact .inr List.mem_cons_self
      · exact (ih member).imp_right (List.mem_cons_of_mem _)

/-- No entry is made up. -/
theorem mem_of_mem_foldl {enter : Table α → String × α → Table α}
    (step : ∀ {table known entry}, entry ∈ enter table known → entry = known ∨ entry ∈ table)
    {entries : List (String × α)} {entry : String × α} (member : entry ∈ entries.foldl enter []) :
    entry ∈ entries := by
  refine List.foldlRecOn (motive := fun table : Table α => ∀ entry ∈ table, entry ∈ entries)
    entries _ (fun _ none => absurd none List.not_mem_nil) ?_ entry member
  intro table known last listed entry member
  rcases step member with rfl | member
  · exact listed
  · exact known entry member

theorem mem_of_mem_ofEntries {entries : List (String × α)} {entry : String × α}
    (member : entry ∈ ofEntries entries) : entry ∈ entries :=
  mem_of_mem_foldl mem_of_mem_put member

theorem mem_of_mem_sorted {entries : List (String × α)} {entry : String × α}
    (member : entry ∈ sorted entries) : entry ∈ entries :=
  mem_of_mem_foldl mem_of_mem_place member

/-- An entry with a new key comes in besides all others. -/
theorem perm_place (fresh : key ∉ table.keys) (value : α) :
    (place key value table).Perm ((key, value) :: table) := by
  induction table with
  | nil => exact .refl _
  | cons entry rest ih =>
    obtain ⟨known, old⟩ := entry
    have ⟨other, later⟩ := not_or.mp (mt List.mem_cons.mpr fresh)
    rw [place]
    split
    · exact .refl _
    · rw [if_neg (Ne.symm other)]
      exact ((ih later).cons _).trans (.swap ..)

/-- Entries with new keys that are placed one after the other are all there in the end. -/
theorem perm_foldl_place {entries : Table α} (distinct : (table ++ entries).keys.Nodup) :
    (entries.foldl (fun table entry => place entry.1 entry.2 table) table).Perm
      (table ++ entries) := by
  induction entries generalizing table with
  | nil => rw [List.foldl_nil, List.append_nil]
  | cons entry rest ih =>
    have fresh : entry.1 ∉ table.keys := by
      rw [keys, List.map_append, List.nodup_append] at distinct
      exact fun known => distinct.2.2 _ known _ List.mem_cons_self rfl
    have moved : (place entry.1 entry.2 table ++ rest).Perm (table ++ entry :: rest) :=
      ((perm_place fresh entry.2).append_right rest).trans List.perm_middle.symm
    exact (ih ((moved.map Prod.fst).nodup_iff.mpr distinct)).trans moved

/-- If the keys are distinct, then bringing them in order keeps all entries. -/
theorem perm_sorted (distinct : table.keys.Nodup) : (sorted table).Perm table :=
  perm_foldl_place distinct

/-- A table has only one form in key order, whatever the order in which its entries come. -/
theorem sorted_eq_of_perm (perm : table.Perm other) (ascending : other.Ascending) :
    sorted table = other := by
  have distinct : table.keys.Nodup := (perm.map Prod.fst).nodup_iff.mpr ascending.nodup
  exact (ascending_sorted table).eq_of_perm ascending ((perm_sorted distinct).trans perm)

/-- Sorting leaves a table alone that is in key order already. -/
theorem Ascending.sorted_eq_self (ascending : table.Ascending) : sorted table = table :=
  sorted_eq_of_perm (.refl table) ascending

/-- Where an entry is placed depends on its key alone, so values can be changed before or after. -/
theorem place_map (change : α → β) (key : String) (value : α) (table : Table α) :
    place key (change value) (table.map (Prod.map id change)) =
      (place key value table).map (Prod.map id change) := by
  induction table with
  | nil => rfl
  | cons entry rest ih =>
    obtain ⟨known, old⟩ := entry
    simp only [List.map_cons, Prod.map_apply, id, place, ih]
    split
    · rfl
    · split <;> rfl

/-- The values do not matter for the order. -/
theorem sorted_map (change : α → β) (entries : Table α) :
    sorted (entries.map (Prod.map id change)) = (sorted entries).map (Prod.map id change) := by
  have placed : ∀ table : Table α,
      (entries.map (Prod.map id change)).foldl (fun table entry => place entry.1 entry.2 table)
          (table.map (Prod.map id change)) =
        (entries.foldl (fun table entry => place entry.1 entry.2 table) table).map
          (Prod.map id change) := by
    induction entries with
    | nil => exact fun _ => rfl
    | cons entry rest ih =>
      intro table
      rw [List.map_cons, List.foldl_cons, List.foldl_cons, ← ih, ← place_map]
      rfl
  exact placed []

/-! ## Entries that may be absent -/

/-- The entries of the keys that have a value. -/
def present (fields : Table (Option α)) : Table α :=
  fields.filterMap fun field => field.2.map (Prod.mk field.1)

theorem present_nil : present ([] : Table (Option α)) = [] := rfl

theorem present_cons (key : String) (value : Option α) (rest : Table (Option α)) :
    present ((key, value) :: rest) = (value.map (Prod.mk key)).toList ++ present rest := by
  cases value <;> rfl

/-- What is present is what has a value. -/
theorem mem_present {fields : Table (Option α)} {entry : String × α} :
    entry ∈ present fields ↔ (entry.1, some entry.2) ∈ fields := by
  constructor
  · intro member
    obtain ⟨⟨key, value⟩, listed, there⟩ := List.mem_filterMap.mp member
    obtain ⟨own, rfl, rfl⟩ := Option.map_eq_some_iff.mp there
    exact listed
  · exact fun listed => List.mem_filterMap.mpr ⟨_, listed, rfl⟩

/-- Leaving out what is absent keeps the key order. -/
theorem Ascending.present {fields : Table (Option α)} (ascending : fields.Ascending) :
    (Table.present fields).Ascending := by
  refine List.pairwise_map.mpr (List.Pairwise.filterMap _ ?_ (List.pairwise_map.mp ascending))
  rintro ⟨first, _⟩ ⟨second, _⟩ less _ here _ there
  obtain ⟨_, _, rfl⟩ := Option.map_eq_some_iff.mp here
  obtain ⟨_, _, rfl⟩ := Option.map_eq_some_iff.mp there
  exact less

/-- It makes no difference whether absent fields are left out before sorting or after it. -/
theorem sorted_present {fields : Table (Option α)} (distinct : fields.keys.Nodup) :
    sorted (present fields) = present (sorted fields) :=
  sorted_eq_of_perm ((perm_sorted distinct).symm.filterMap _) (ascending_sorted fields).present

/-- Values can be changed before the absent fields are left out or after it. -/
theorem present_map (change : α → β) (fields : Table (Option α)) :
    (present fields).map (Prod.map id change) =
      present (fields.map (Prod.map id (Option.map change))) := by
  rw [present, present, List.map_filterMap, List.filterMap_map]
  refine List.filterMap_congr fun field _ => ?_
  rw [Option.map_map, Function.comp_apply, Prod.map_snd, Option.map_map]
  rfl

end Table

/-! ## Reading a value -/

namespace Value

theorem inKeyOrderItems_eq_map (items : List Value) :
    inKeyOrderItems items = items.map inKeyOrder := by
  induction items with
  | nil => rfl
  | cons item rest ih => rw [inKeyOrderItems, ih, List.map_cons]

theorem inKeyOrderEntries_eq_map (entries : Table Value) :
    inKeyOrderEntries entries = entries.map (Prod.map id inKeyOrder) := by
  induction entries with
  | nil => rfl
  | cons entry rest ih =>
    rw [inKeyOrderEntries, ih, List.map_cons]
    rfl

theorem inKeyOrder_texts (items : List String) : (texts items).inKeyOrder = texts items := by
  rw [texts, inKeyOrder, inKeyOrderItems_eq_map, List.map_map]
  rfl

/-- A map of fields of which some are absent is brought into key order field by field. -/
theorem inKeyOrder_present {fields : Table (Option Value)} (distinct : fields.keys.Nodup) :
    (Value.map (Table.present fields)).inKeyOrder = .map (Table.present
      (Table.sorted (fields.map (Prod.map id (Option.map inKeyOrder))))) := by
  rw [inKeyOrder, inKeyOrderEntries_eq_map, Table.sorted_map, Table.sorted_present distinct,
    Table.present_map, ← Table.sorted_map]

/-- All numbers in a value are finite. -/
inductive IsFinite : Value → Prop
  | null : IsFinite .null
  | bool (value : Bool) : IsFinite (.bool value)
  | int (value : Int) : IsFinite (.int value)
  | float {value : Decimal.Double} (finite : value.isFinite = true) : IsFinite (.float value)
  | text (value : String) : IsFinite (.text value)
  | list {items : List Value} (each : ∀ item ∈ items, IsFinite item) : IsFinite (.list items)
  | map {entries : Table Value} (each : ∀ entry ∈ entries, IsFinite entry.2) :
    IsFinite (.map entries)

/-- A value as it is after reading. -/
structure IsRead (value : Value) : Prop where
  finite : value.IsFinite
  ordered : value.inKeyOrder = value

end Value

namespace Datum

/-- If items are read back, then so are lists of them. -/
theorem toItems?_ofItems {items : List Value}
    (each : ∀ item ∈ items, (ofValue item).toValue? = some item.inKeyOrder) :
    toItems? (ofItems items) = some (Value.inKeyOrderItems items) := by
  induction items with
  | nil => rfl
  | cons item rest ih =>
    have ⟨own, others⟩ := List.forall_mem_cons.mp each
    rw [ofItems, toItems?, own, ih others]
    rfl

/-- If the values of entries are read back, then so are maps with these entries. -/
theorem toEntries?_ofEntries {entries : Table Value}
    (each : ∀ entry ∈ entries, (ofValue entry.2).toValue? = some entry.2.inKeyOrder) :
    toEntries? (ofEntries entries) = some (Value.inKeyOrderEntries entries) := by
  induction entries with
  | nil => rfl
  | cons entry rest ih =>
    have ⟨own, others⟩ := List.forall_mem_cons.mp each
    rw [ofEntries, toEntries?, own, ih others]
    rfl

end Datum

/-- Reading a value brings its keys in order. -/
theorem Value.IsFinite.toValue?_ofValue {value : Value} (finite : value.IsFinite) :
    (Datum.ofValue value).toValue? = some value.inKeyOrder := by
  induction finite with
  | null | bool | int | text => rfl
  | float finite =>
    rw [Datum.ofValue, Datum.toValue?, Datum.valueOfLeaf, if_pos finite]
    rfl
  | list _ ih =>
    rw [Datum.ofValue, Datum.toValue?, Datum.toItems?_ofItems ih]
    rfl
  | map _ ih =>
    rw [Datum.ofValue, Datum.toValue?, Datum.toEntries?_ofEntries ih]
    rfl

/-- A value that was read is read back as itself. -/
theorem Value.IsRead.toValue?_ofValue {value : Value} (read : value.IsRead) :
    (Datum.ofValue value).toValue? = some value := by
  rw [read.finite.toValue?_ofValue, read.ordered]

theorem Value.IsRead.list {items : List Value} (each : ∀ item ∈ items, item.IsRead) :
    (Value.list items).IsRead := by
  refine ⟨.list fun item listed => (each item listed).finite, ?_⟩
  rw [inKeyOrder, inKeyOrderItems_eq_map, List.map_congr_left fun item listed =>
    (each item listed).ordered, List.map_id']

/-- A map in key order of values that were read is one that can be read. -/
theorem Value.IsRead.map {entries : Table Value} (each : ∀ entry ∈ entries, entry.2.IsRead)
    (ascending : entries.Ascending) : (Value.map entries).IsRead := by
  refine ⟨.map fun entry listed => (each entry listed).finite, ?_⟩
  have same : ∀ entry ∈ entries, Prod.map id inKeyOrder entry = entry :=
    fun entry listed => Prod.ext rfl (each entry listed).ordered
  rw [inKeyOrder, inKeyOrderEntries_eq_map, List.map_congr_left same, List.map_id',
    ascending.sorted_eq_self]

theorem Value.IsRead.item {items : List Value} (read : (Value.list items).IsRead) {item : Value}
    (listed : item ∈ items) : item.IsRead := by
  obtain ⟨finite, ordered⟩ := read
  cases finite with
  | list each =>
    rw [inKeyOrder, inKeyOrderItems_eq_map, Value.list.injEq] at ordered
    have same : items.map inKeyOrder = items.map id := by rw [ordered, List.map_id]
    exact ⟨each item listed, List.map_inj_left.mp same item listed⟩

/-- The maps in a value that was read are in key order. -/
theorem Value.IsRead.ascending {entries : Table Value} (read : (Value.map entries).IsRead) :
    entries.Ascending := by
  have ordered := read.ordered
  rw [inKeyOrder, Value.map.injEq] at ordered
  rw [← ordered]
  exact Table.ascending_sorted _

theorem Value.IsRead.entry {entries : Table Value} (read : (Value.map entries).IsRead)
    {entry : String × Value} (listed : entry ∈ entries) : entry.2.IsRead := by
  have ascending := read.ascending
  obtain ⟨finite, ordered⟩ := read
  cases finite with
  | map each =>
    -- The keys ascend already, so that only the values can be brought in order.
    rw [inKeyOrder, inKeyOrderEntries_eq_map, Table.sorted_map, ascending.sorted_eq_self,
      Value.map.injEq] at ordered
    have same : entries.map (Prod.map id inKeyOrder) = entries.map id := by
      rw [ordered, List.map_id]
    have own := List.map_inj_left.mp same entry listed
    exact ⟨each entry listed, congrArg Prod.snd own⟩

namespace Datum

/-- A value that stands for a leaf was read. -/
theorem isRead_valueOfLeaf (datum : Leaf) : (valueOfLeaf datum).IsRead := by
  cases datum with
  | null => exact ⟨.null, rfl⟩
  | bool value => exact ⟨.bool value, rfl⟩
  | int value => exact ⟨.int value, rfl⟩
  | float value =>
    rw [valueOfLeaf]
    split
    next finite => exact ⟨.float finite, rfl⟩
    · exact ⟨.null, rfl⟩
  | text value => exact ⟨.text value, rfl⟩

mutual

/-- All values that were read are as values are after reading. -/
theorem isRead_of_toValue? {datum : Datum} {value : Value} (read : datum.toValue? = some value) :
    value.IsRead := by
  cases datum with
  | leaf datum =>
    cases read
    exact isRead_valueOfLeaf datum
  | scalar written =>
    obtain ⟨datum, _, rfl⟩ := Option.map_eq_some_iff.mp read
    exact isRead_valueOfLeaf datum
  | void =>
    cases read
    exact isRead_valueOfLeaf .null
  | broken | tagged => cases read
  | list _ items =>
    obtain ⟨items, own, rfl⟩ := Option.map_eq_some_iff.mp read
    exact .list (isRead_of_toItems? own)
  | map entries =>
    obtain ⟨entries, own, rfl⟩ := Option.map_eq_some_iff.mp read
    refine .map (fun entry listed => ?_) (Table.ascending_sorted entries)
    exact isRead_of_toEntries? own entry (Table.mem_of_mem_sorted listed)

theorem isRead_of_toItems? {data : List Datum} {items : List Value}
    (read : toItems? data = some items) : ∀ item ∈ items, item.IsRead := by
  cases data with
  | nil =>
    cases read
    exact fun _ listed => nomatch listed
  | cons datum rest =>
    obtain ⟨item, own, read⟩ := Option.bind_eq_some_iff.mp read
    obtain ⟨items, others, same⟩ := Option.bind_eq_some_iff.mp read
    cases same
    exact List.forall_mem_cons.mpr ⟨isRead_of_toValue? own, isRead_of_toItems? others⟩

theorem isRead_of_toEntries? {data : List (Datum × Datum)} {entries : Table Value}
    (read : toEntries? data = some entries) : ∀ entry ∈ entries, entry.2.IsRead := by
  cases data with
  | nil =>
    cases read
    exact fun _ listed => nomatch listed
  | cons datum rest =>
    obtain ⟨key, value⟩ := datum
    obtain ⟨key, _, read⟩ := Option.bind_eq_some_iff.mp read
    obtain ⟨value, own, read⟩ := Option.bind_eq_some_iff.mp read
    obtain ⟨entries, others, same⟩ := Option.bind_eq_some_iff.mp read
    cases same
    exact List.forall_mem_cons.mpr ⟨isRead_of_toValue? own, isRead_of_toEntries? others⟩

end

/-- What a configuration has under its keys are values that were read. -/
theorem isRead_of_decodeConfiguration {datum : Datum} {configuration : Table Value}
    (decoded : datum.decodeConfiguration = .ok configuration) :
    ∀ entry ∈ configuration, entry.2.IsRead := by
  intro entry listed
  obtain ⟨table, read, same⟩ := bind_ok.mp decoded
  cases same
  obtain ⟨data, _, read⟩ := bind_ok.mp read
  obtain ⟨items, ran, same⟩ := bind_ok.mp read
  cases same
  have member := Table.mem_of_mem_ofEntries (Table.mem_of_mem_sorted listed)
  obtain ⟨datum, _, made⟩ := exists_item_of_mapM_ok ran member
  obtain ⟨key, _, made⟩ := bind_ok.mp made
  obtain ⟨value, own, same⟩ := bind_ok.mp made
  cases same
  rw [decodeValue] at own
  split at own
  next found =>
    cases own
    exact isRead_of_toValue? found
  · cases own

end Datum

end WorkflowChain
