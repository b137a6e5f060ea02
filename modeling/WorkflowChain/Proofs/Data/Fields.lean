import WorkflowChain.Data.Decode
import WorkflowChain.Proofs.Data.KeyOrder
import WorkflowChain.Proofs.Success
import Mathlib.Data.Option.Basic

/-! # Fields of values that are decoded

A record is decoded from a map by taking one entry after the other into a draft, and no field is
taken twice. So a field that has only one spelling is decoded from the entry with this key, if there
is one (`RecordReader.ReadsField.rel_of_takeEntries`). A table is decoded from a map entry by entry
(`Datum.decodeTable_ofValue`).

A record that is written as a value has an entry for each field that is there. These entries are
taken back one after the other (`RecordReader.takeEntries_present_cons`). A positional list gives
its items to the fields in order (`RecordReader.takeItems_eq_takeEntries`).
-/

namespace WorkflowChain

variable {α β φ δ : Type}

namespace Datum

theorem ofEntries_eq_map (entries : List (String × Value)) :
    ofEntries entries = entries.map fun entry => (text entry.1, ofValue entry.2) := by
  induction entries with
  | nil => rfl
  | cons entry rest ih => rw [ofEntries, ih, List.map_cons]

/-- Only a map is decoded to a table. Its entries are decoded in order, with their keys. -/
theorem decodeTable_ofValue {decode : Datum → Decoded α} {value : Value} {table : Table α}
    (decoded : (ofValue value).decodeTable decode = .ok table) :
    ∃ entries items, value = .map entries ∧ table = Table.ofEntries items ∧
      List.Forall₂ (fun entry item => item.1 = entry.1 ∧ decode (ofValue entry.2) = .ok item.2)
        entries items := by
  obtain ⟨data, found, decoded⟩ := bind_ok.mp decoded
  obtain ⟨items, ran, same⟩ := bind_ok.mp decoded
  cases same
  cases value with
  | map entries =>
    cases found
    refine ⟨entries, items, rfl, rfl, ?_⟩
    rw [mapM_ok, ofEntries_eq_map, List.forall₂_map_left_iff] at ran
    refine ran.imp fun entry item made => ?_
    obtain ⟨key, named, made⟩ := bind_ok.mp made
    obtain ⟨result, own, made⟩ := bind_ok.mp made
    cases named
    cases made
    exact ⟨rfl, own⟩
  | _ => cases found

theorem lt_of_decodeCount {datum : Datum} {count : Nat} (decoded : datum.decodeCount = .ok count) :
    count < 0x10000000000000000 := by
  unfold decodeCount at decoded
  split at decoded
  · split at decoded <;> cases decoded
    omega
  · split at decoded <;> cases decoded
    next counted =>
      unfold Yaml.Scalar.count? at counted
      split at counted
      · exact of_decide_eq_true (Option.filter_eq_some_iff.mp counted).2
      · cases counted
  · cases decoded

theorem decodeCount_ofValue {count : Nat} (bound : count < 0x10000000000000000) :
    (ofValue (.int count)).decodeCount = .ok count := by
  have inside : (0 : Int) ≤ count ∧ (count : Int) < 0x10000000000000000 := by omega
  rw [ofValue, decodeCount, if_pos inside, Int.toNat_natCast]

/-- An optional datum that is there was decoded as such. -/
theorem decode_of_decodeOption {decode : Datum → Decoded α} {datum : Datum} {value : α}
    (decoded : datum.decodeOption decode = .ok (some value)) : decode datum = .ok value := by
  obtain ⟨absent, _, decoded⟩ := bind_ok.mp decoded
  split at decoded
  · cases decoded
  · obtain ⟨own, found, same⟩ := bind_ok.mp decoded
    cases same
    exact found

theorem ofItems_eq_map (items : List Value) : ofItems items = items.map ofValue := by
  induction items with
  | nil => rfl
  | cons item rest ih => rw [ofItems, ih, List.map_cons]

mutual

/-- Every part of a value has a kind. -/
theorem resolve_ofValue (value : Value) : (ofValue value).resolve = some (ofValue value) := by
  cases value with
  | null | bool | int | float | text => rfl
  | list items =>
    rw [ofValue, resolve, resolveItems_ofItems items]
    rfl
  | map entries =>
    rw [ofValue, resolve, resolveEntries_ofEntries entries]
    rfl

theorem resolveItems_ofItems (items : List Value) :
    resolveItems (ofItems items) = some (ofItems items) := by
  cases items with
  | nil => rfl
  | cons item rest =>
    rw [ofItems, resolveItems, resolve_ofValue item, resolveItems_ofItems rest]
    rfl

theorem resolveEntries_ofEntries (entries : List (String × Value)) :
    resolveEntries (ofEntries entries) = some (ofEntries entries) := by
  cases entries with
  | nil => rfl
  | cons entry rest =>
    obtain ⟨key, value⟩ := entry
    rw [ofEntries, resolveEntries, resolve_ofValue value, resolveEntries_ofEntries rest]
    rfl

end

section Written

variable {decode : Datum → Decoded α} {write : α → Value}

theorem decodeList_map_ok {change : α → β} {decode : Datum → Decoded β} {items : List α}
    (each : ∀ item ∈ items, decode (ofValue (write item)) = .ok (change item)) :
    (ofValue (.list (items.map write))).decodeList decode = .ok (items.map change) := by
  rw [ofValue, ofItems_eq_map, List.map_map]
  change List.mapM decode _ = _
  rw [List.mapM_map]
  exact mapM_eq_ok_map each

theorem decodeList_map {items : List α}
    (each : ∀ item ∈ items, decode (ofValue (write item)) = .ok item) :
    (ofValue (.list (items.map write))).decodeList decode = .ok items := by
  have read : _ = Except.ok (items.map id) := decodeList_map_ok each
  rwa [List.map_id] at read

theorem decodeList_texts (items : List String) :
    (ofValue (.texts items)).decodeList decodeText = .ok items :=
  decodeList_map fun _ _ => rfl

/-- A table is decoded if each of its values is, and none of its keys comes twice. -/
theorem decodeTable_map {table : Table α} (distinct : table.keys.Nodup)
    (each : ∀ entry ∈ table, decode (ofValue (write entry.2)) = .ok entry.2) :
    (ofValue (.map (table.map (Prod.map id write)))).decodeTable decode = .ok table := by
  rw [ofValue, ofEntries_eq_map, List.map_map, decodeTable, decodeEntries]
  refine bind_ok.mpr ⟨_, rfl, bind_ok.mpr ⟨table, ?_, ?_⟩⟩
  · rw [mapM_ok, List.forall₂_map_left_iff]
    refine List.forall₂_same.mpr fun entry listed => ?_
    exact bind_ok.mpr ⟨entry.1, rfl, bind_ok.mpr ⟨entry.2, each entry listed, rfl⟩⟩
  · rw [Table.ofEntries_eq_self distinct]
    rfl

end Written

/-- The values of a configuration are decoded to themselves. -/
theorem decodeConfiguration_ofValue {configuration : Table Value}
    (read : (Value.map configuration).IsRead) :
    (ofValue (.map configuration)).decodeConfiguration = .ok configuration := by
  have ascending := read.ascending
  have table : (ofValue (.map (configuration.map (Prod.map id id)))).decodeTable decodeValue =
      .ok configuration := by
    refine decodeTable_map ascending.nodup fun entry listed => ?_
    rw [id, decodeValue, (read.entry listed).toValue?_ofValue]
  rw [Prod.map_id, List.map_id] at table
  rw [decodeConfiguration, table]
  change Except.ok (Table.sorted configuration) = _
  rw [ascending.sorted_eq_self]

end Datum

namespace RecordReader

variable [BEq φ]

/-- A field of a record has only one key, and the drafts show what it was decoded to. -/
structure ReadsField (reader : RecordReader φ δ α) (field : φ) (key : String)
    (decode : Datum → Decoded β) (view : δ → Option β) : Prop where
  spelled : ∀ {written}, reader.ofKey written = some field ↔ written = key
  known : ∀ draft, reader.has field draft = (view draft).isSome
  own : ∀ {datum draft next}, reader.take field datum draft = .ok next →
    ∃ value, decode datum = .ok value ∧ view next = some value
  other : ∀ {different datum draft next}, different ≠ field →
    reader.take different datum draft = .ok next → view next = view draft

namespace ReadsField

variable {reader : RecordReader φ δ α} {field : φ} {key : String} {decode : Datum → Decoded β}
  {view : δ → Option β} {entries : Table Value} {draft last : δ}

/-- After the entries of a map the draft shows what it showed before if the key is not there, and
else what the first entry with the key is decoded to. -/
theorem view_of_takeEntries (reads : reader.ReadsField field key decode view)
    (taken : reader.takeEntries (Datum.ofEntries entries) draft = .ok last) :
    (entries.lookup key = none ∧ view last = view draft) ∨
      ∃ written value, entries.lookup key = some written ∧ view draft = none ∧
        decode (Datum.ofValue written) = .ok value ∧ view last = some value := by
  induction entries generalizing draft with
  | nil =>
    cases taken
    exact .inl ⟨rfl, rfl⟩
  | cons entry rest ih =>
    obtain ⟨name, written⟩ := entry
    obtain ⟨named, found, taken⟩ := bind_ok.mp taken
    obtain rfl : reader.ofKey name = named := Except.ok.inj found
    rw [Table.lookup_cons]
    cases chosen : reader.ofKey name with
    | none =>
      rw [chosen] at taken
      have other : key ≠ name := by
        rintro rfl
        rw [reads.spelled.mpr rfl] at chosen
        cases chosen
      rw [if_neg other]
      exact ih taken
    | some different =>
      rw [chosen] at taken
      dsimp only at taken
      split at taken
      · cases taken
      next fresh =>
        obtain ⟨next, took, following⟩ := bind_ok.mp taken
        by_cases same : key = name
        · -- The field is not taken again from an entry of the rest.
          obtain rfl : field = different :=
            Option.some.inj ((reads.spelled.mpr same.symm).symm.trans chosen)
          obtain ⟨value, decoded, shown⟩ := reads.own took
          rw [reads.known, Option.not_isSome_iff_eq_none] at fresh
          rw [if_pos same]
          refine .inr ⟨written, value, rfl, fresh, decoded, ?_⟩
          rcases ih following with ⟨_, kept⟩ | ⟨_, _, _, absent, _⟩
          · exact kept.trans shown
          · cases absent.symm.trans shown
        · have other : different ≠ field := by
            rintro rfl
            exact same (reads.spelled.mp chosen).symm
          rw [if_neg same, ← reads.other other took]
          exact ih following

/-- From a draft without the field, the field is decoded from the entry with its key. -/
theorem rel_of_takeEntries (reads : reader.ReadsField field key decode view)
    (start : view draft = none)
    (taken : reader.takeEntries (Datum.ofEntries entries) draft = .ok last) :
    Option.Rel (fun written value => decode (Datum.ofValue written) = .ok value)
      (entries.lookup key) (view last) := by
  rcases reads.view_of_takeEntries taken with
    ⟨absent, kept⟩ | ⟨written, value, found, _, decoded, shown⟩
  · rw [absent, kept, start]
    exact .none
  · rw [found, shown]
    exact .some decoded

end ReadsField

/-- The first entry is for a field that was not taken yet. -/
theorem takeEntries_field (reader : RecordReader φ δ α) {field : φ} {key : String} {draft : δ}
    (named : reader.ofKey key = some field) (fresh : reader.has field draft = false)
    (value : Datum) (rest : List (Datum × Datum)) :
    reader.takeEntries ((Datum.text key, value) :: rest) draft =
      reader.take field value draft >>= reader.takeEntries rest := by
  have found : fieldOf reader.fields reader.ofKey (Datum.text key) = .ok (some field) :=
    congrArg Except.ok named
  rw [takeEntries, found]
  change (if reader.has field draft then _ else reader.take field value draft >>= _) = _
  rw [fresh]
  rfl

/-- A field is taken from the first entry. -/
theorem takeEntries_cons (reader : RecordReader φ δ α) {field : φ} {key : String} {value : Datum}
    {draft next : δ} {rest : List (Datum × Datum)} (named : reader.ofKey key = some field)
    (fresh : reader.has field draft = false) (taken : reader.take field value draft = .ok next) :
    reader.takeEntries ((Datum.text key, value) :: rest) draft = reader.takeEntries rest next := by
  rw [reader.takeEntries_field named fresh, taken]
  rfl

/-- A positional list is taken like the map that gives its items to the fields in order. -/
theorem takeItems_eq_takeEntries (reader : RecordReader φ δ α)
    (others : ∀ {field other datum draft next}, other ≠ field →
      reader.take field datum draft = .ok next → reader.has other next = reader.has other draft)
    {fields : List (φ × String)} (distinct : (fields.map Prod.fst).Nodup)
    (named : ∀ field ∈ fields, reader.ofKey field.2 = some field.1)
    (items : List Value) {draft : δ} (fresh : ∀ field ∈ fields, reader.has field.1 draft = false) :
    reader.takeItems fields (Datum.ofItems items) draft =
      reader.takeEntries (Datum.ofEntries ((fields.map Prod.snd).zip items)) draft := by
  -- The fields of the rest are not taken yet in the next draft either, as the next field is another.
  induction fields generalizing items draft with
  | nil => rfl
  | cons first fields ih =>
    cases items with
    | nil => rfl
    | cons item items =>
      have ⟨once, distinct⟩ := List.nodup_cons.mp distinct
      have ⟨own, named⟩ := List.forall_mem_cons.mp named
      have ⟨free, fresh⟩ := List.forall_mem_cons.mp fresh
      rw [Datum.ofItems, takeItems, List.map_cons, List.zip_cons_cons, Datum.ofEntries,
        reader.takeEntries_field own free]
      cases taken : reader.take first.1 (Datum.ofValue item) draft with
      | error reason => rfl
      | ok next =>
        apply ih distinct named
        intro field listed
        have apart : field.1 ≠ first.1 := by
          intro same
          exact once (same ▸ List.mem_map_of_mem listed)
        rw [others apart taken]
        exact fresh field listed

/-- A field that may be absent is taken from the first entry, if it is there. -/
theorem takeEntries_present_cons {γ : Type} (reader : RecordReader φ δ α) (field : φ)
    {key : String} {draft : δ} {content : Option β} {write : β → Value}
    {rest : Table (Option Value)} (back : β → γ) (set : Option γ → δ)
    (named : reader.ofKey key = some field) (fresh : reader.has field draft = false)
    (unset : set none = draft)
    (taken : ∀ own ∈ content,
      reader.take field (Datum.ofValue (write own)) draft = .ok (set (some (back own)))) :
    reader.takeEntries (Datum.ofEntries (Table.present ((key, content.map write) :: rest))) draft =
      reader.takeEntries (Datum.ofEntries (Table.present rest)) (set (content.map back)) := by
  cases content with
  | none =>
    rw [Option.map_none, Option.map_none, unset]
    rfl
  | some own => exact reader.takeEntries_cons named fresh (taken own rfl)

end RecordReader

end WorkflowChain
