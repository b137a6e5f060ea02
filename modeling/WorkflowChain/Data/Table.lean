/-! # Tables in written order

A table is a list of keys with their values in which the order counts. Putting a value
under a known key keeps the place of the key and replaces the value; a new key comes last.
A table can also be brought into the order of its keys.
-/

namespace WorkflowChain

/-- Keys with their values, in order. -/
abbrev Table (α : Type) := List (String × α)

namespace Table

variable {α β : Type}

/-- The keys in order. -/
def keys (table : Table α) : List String := table.map Prod.fst

/-- Put a value under a key: in place if the key is there, else at the end. -/
def put (key : String) (value : α) : Table α → Table α
  | [] => [(key, value)]
  | (known, old) :: rest =>
    if known = key then (known, value) :: rest else (known, old) :: put key value rest

/-- The table that results from putting entries one after the other. -/
def ofEntries (entries : List (String × α)) : Table α :=
  entries.foldl (fun table entry => table.put entry.1 entry.2) []

/-- Put a value under a key in a table that is in key order. -/
def place (key : String) (value : α) : Table α → Table α
  | [] => [(key, value)]
  | (known, old) :: rest =>
    if key < known then (key, value) :: (known, old) :: rest
    else if known = key then (key, value) :: rest
    else (known, old) :: place key value rest

/-- The entries in key order; of entries with one key the last counts. -/
def sorted (entries : List (String × α)) : Table α :=
  entries.foldl (fun table entry => place entry.1 entry.2 table) []

/-- The first entry answers for its own key and the rest for all others. -/
theorem lookup_cons (wanted known : String) (value : α) (rest : Table α) :
    List.lookup wanted ((known, value) :: rest) =
      if wanted = known then some value else rest.lookup wanted := by
  by_cases same : wanted = known
  · simp [same]
  · have differ : (wanted == known) = false := beq_false_of_ne same
    simp [List.lookup_cons, same, differ]

/-- Without the entries of one key a table answers for all others as before. -/
theorem lookup_filter_ne {key wanted : String} (other : wanted ≠ key) (table : Table α) :
    (table.filter fun entry => entry.1 ≠ key).lookup wanted = table.lookup wanted := by
  induction table with
  | nil => rfl
  | cons entry rest ih =>
    obtain ⟨known, value⟩ := entry
    by_cases here : known = key
    · rw [List.filter_cons_of_neg (by simpa using here), ih, lookup_cons, if_neg (here ▸ other)]
    · rw [List.filter_cons_of_pos (by simpa using here), lookup_cons, ih, lookup_cons]

theorem mem_of_lookup {key : String} {value : α} {table : Table α}
    (found : table.lookup key = some value) : (key, value) ∈ table := by
  obtain ⟨before, after, rfl, _⟩ := List.lookup_eq_some_iff.mp found
  exact List.mem_append_right before List.mem_cons_self

/-- After a put, the key has the new value and every other key what it had. -/
theorem lookup_put (key wanted : String) (value : α) (table : Table α) :
    (table.put key value).lookup wanted =
      if wanted = key then some value else table.lookup wanted := by
  induction table with
  | nil => simp [put, lookup_cons]
  | cons entry rest ih =>
    obtain ⟨known, old⟩ := entry
    by_cases here : known = key
    · subst here
      simp only [put, ↓reduceIte, lookup_cons]
      split <;> rfl
    · simp only [put, here, ↓reduceIte, lookup_cons, ih]
      by_cases same : wanted = known
      · simp [same, here]
      · simp [same]

/-- Putting adds its key to the keys unless it is one of them already. -/
theorem keys_put (key : String) (value : α) (table : Table α) :
    (table.put key value).keys = if key ∈ table.keys then table.keys else table.keys ++ [key] := by
  induction table with
  | nil => simp [put, keys]
  | cons entry rest ih =>
    obtain ⟨known, old⟩ := entry
    by_cases here : known = key
    · subst here
      simp [put, keys]
    · have other : ¬key = known := fun same => here same.symm
      simp only [keys] at ih
      by_cases member : key ∈ List.map Prod.fst rest
      · simp_all [put, keys]
      · simp_all [put, keys]

/-- A new key comes last. -/
theorem put_of_notMem {key : String} {table : Table α} (fresh : key ∉ table.keys) (value : α) :
    table.put key value = table ++ [(key, value)] := by
  induction table with
  | nil => rfl
  | cons entry rest ih =>
    obtain ⟨known, old⟩ := entry
    rw [keys, List.map_cons, List.mem_cons, not_or] at fresh
    have other : ¬known = key := fun same => fresh.1 same.symm
    rw [put, if_neg other, ih fresh.2, List.cons_append]

/-- Entries under new keys come last, in their order. -/
theorem foldl_put_of_nodup {table entries : Table α} (distinct : (table ++ entries).keys.Nodup) :
    entries.foldl (fun table entry => table.put entry.1 entry.2) table = table ++ entries := by
  induction entries generalizing table with
  | nil => exact (List.append_nil table).symm
  | cons entry rest ih =>
    have fresh : entry.1 ∉ table.keys := by
      intro known
      rw [keys, List.map_append, List.nodup_append] at distinct
      exact distinct.2.2 _ known _ List.mem_cons_self rfl
    rw [List.append_cons] at distinct
    rw [List.foldl_cons, put_of_notMem fresh, ih distinct, ← List.append_cons]

/-- If the keys are distinct, each entry is found. -/
theorem lookup_of_mem {table : Table α} (distinct : table.keys.Nodup) {key : String} {value : α}
    (member : (key, value) ∈ table) : table.lookup key = some value := by
  induction table with
  | nil => exact absurd member List.not_mem_nil
  | cons entry rest ih =>
    obtain ⟨known, old⟩ := entry
    have ⟨fresh, others⟩ := List.nodup_cons.mp distinct
    rw [lookup_cons]
    rcases List.mem_cons.mp member with same | later
    · cases same
      exact if_pos rfl
    · have other : key ≠ known := by
        rintro rfl
        exact fresh (List.mem_map.mpr ⟨_, later, rfl⟩)
      rw [if_neg other]
      exact ih others later

theorem mem_keys_put (wanted key : String) (value : α) (table : Table α) :
    wanted ∈ (table.put key value).keys ↔ wanted ∈ table.keys ∨ wanted = key := by
  rw [keys_put]
  split
  next known =>
    constructor
    · exact Or.inl
    · rintro (member | rfl)
      · exact member
      · exact known
  · rw [List.mem_append, List.mem_singleton]

private theorem mem_keys_foldl (wanted : String) (entries : List (String × α)) (table : Table α) :
    wanted ∈ (entries.foldl (fun table entry => table.put entry.1 entry.2) table).keys ↔
      wanted ∈ table.keys ∨ wanted ∈ entries.map Prod.fst := by
  induction entries generalizing table with
  | nil => simp
  | cons entry rest ih =>
    rw [List.foldl_cons, ih, mem_keys_put, List.map_cons, List.mem_cons, or_assoc]

/-- The keys of a table are those of the entries that were put into it. -/
theorem mem_keys_ofEntries (wanted : String) (entries : List (String × α)) :
    wanted ∈ (ofEntries entries).keys ↔ wanted ∈ entries.map Prod.fst := by
  rw [ofEntries, mem_keys_foldl]
  simp [keys]

/-- To put a value into a table keeps each key there once. -/
theorem nodup_keys_put {table : Table α} (distinct : table.keys.Nodup) (key : String) (value : α) :
    (table.put key value).keys.Nodup := by
  rw [keys_put]
  split
  · exact distinct
  next fresh =>
    refine List.nodup_append.mpr ⟨distinct, List.nodup_cons.mpr ⟨List.not_mem_nil, .nil⟩, ?_⟩
    rintro known member _ last rfl
    exact fresh (List.mem_singleton.mp last ▸ member)

/-- A table has each key once, whatever was put into it. -/
theorem nodup_keys_ofEntries (entries : List (String × α)) : (ofEntries entries).keys.Nodup :=
  List.foldlRecOn (motive := fun table : Table α => table.keys.Nodup) entries _ List.nodup_nil
    fun _ distinct entry _ => nodup_keys_put distinct entry.1 entry.2

/-- Entries with distinct keys are a table. -/
theorem ofEntries_eq_self {entries : Table α} (distinct : entries.keys.Nodup) :
    ofEntries entries = entries := by
  rw [← List.nil_append entries] at distinct
  exact foldl_put_of_nodup distinct

private theorem lookup_foldl_put (wanted : String) (entries : List (String × α)) (table : Table α) :
    (entries.foldl (fun table entry => table.put entry.1 entry.2) table).lookup wanted =
      (((entries.filter fun entry => entry.1 = wanted).getLast?).map Prod.snd).or
        (table.lookup wanted) := by
  induction entries generalizing table with
  | nil => rfl
  | cons entry rest ih =>
    rw [List.foldl_cons, ih, lookup_put]
    by_cases same : entry.1 = wanted
    · rw [List.filter_cons_of_pos (by simpa using same), List.getLast?_cons, if_pos same.symm]
      cases (rest.filter fun entry => entry.1 = wanted).getLast? <;> rfl
    · rw [List.filter_cons_of_neg (by simpa using same), if_neg (Ne.symm same)]

/-- The last of the entries of a key counts. -/
theorem lookup_ofEntries (wanted : String) (entries : List (String × α)) :
    (ofEntries entries).lookup wanted =
      ((entries.filter fun entry => entry.1 = wanted).getLast?).map Prod.snd := by
  rw [ofEntries, lookup_foldl_put]
  exact Option.or_none

private theorem lookup_foldl_map (wanted : String) (keys : List String) (value : String → α)
    (table : Table α) :
    (keys.foldl (fun table key => table.put key (value key)) table).lookup wanted =
      if wanted ∈ keys then some (value wanted) else table.lookup wanted := by
  induction keys generalizing table with
  | nil => simp
  | cons key rest ih =>
    rw [List.foldl_cons, ih, lookup_put]
    by_cases later : wanted ∈ rest
    · simp [later]
    · by_cases same : wanted = key
      · simp [same]
      · simp [later, same]

/-- A table of entries that are made from their keys has just these entries. -/
theorem lookup_ofEntries_map (wanted : String) (keys : List String) (value : String → α) :
    (ofEntries (keys.map fun key => (key, value key))).lookup wanted =
      if wanted ∈ keys then some (value wanted) else none := by
  rw [ofEntries, List.foldl_map, lookup_foldl_map]
  rfl

end Table

end WorkflowChain
