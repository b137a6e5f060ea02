import WorkflowChain.Data.Table
import WorkflowChain.Iri
import Mathlib.Data.List.Forall2
import Mathlib.Data.List.Infix

/-! # Vocabularies

The names of a vocabulary are written in two ways, as identifiers such as `http://x/ss3#Tool` and as
keys such as `ss3:Tool`. If the namespace ends with the label of the vocabulary, then the compact
form of an identifier is its key (`Vocabulary.Names.compact_eq`), and the key is expanded to the
identifier wherever the label is known.

Tables that were written with identifiers and with keys give the same answers, if an identifier is
looked for in both ways (`Vocabulary.Renames.answers`).
-/

namespace WorkflowChain

theorem Text.occursIn_iff {part text : List Char} : occursIn part text = true ↔ part <:+: text := by
  induction text with
  | nil => rw [occursIn, List.isEmpty_iff, List.infix_nil]
  | cons c rest ih =>
    rw [occursIn, Bool.or_eq_true, List.isPrefixOf_iff_prefix, ih, List.infix_cons_iff]

/-- A key that is a full IRI already. -/
def Iri.IsFull (key : String) : Prop := Text.occursIn "://".toList key.toList = true

instance (key : String) : Decidable (Iri.IsFull key) := inferInstanceAs (Decidable (_ = true))

/-- A full name is left alone by every table of namespaces. -/
theorem Iri.expand_of_isFull {key : String} (full : IsFull key)
    (namespaces : List (String × String)) : expand namespaces key = key :=
  if_pos full

/-- A vocabulary, whose namespace has the label as its last path segment. -/
structure Vocabulary where
  label : String
  base : String
  plain : '/' ∉ label.toList ∧ '#' ∉ label.toList ∧ ':' ∉ label.toList

namespace Vocabulary

variable (vocabulary : Vocabulary)

/-- The namespace of a vocabulary. -/
def space : String := vocabulary.base ++ "/" ++ vocabulary.label ++ "#"

/-- The names that a vocabulary can have. -/
def IsName (name : String) : Prop := '/' ∉ name.toList ∧ '#' ∉ name.toList

/-- A text consists of a fixed beginning and a name. -/
def Extends (beginning text : String) : Prop := ∃ name, IsName name ∧ text = beginning ++ name

/-- A text is a key of the vocabulary. -/
def IsKey (key : String) : Prop := Extends (vocabulary.label ++ ":") key

/-- A text is an identifier of the vocabulary. -/
def IsIdentifier (identifier : String) : Prop := Extends vocabulary.space identifier

/-- An identifier and a key stand for the same name. -/
def Names (identifier key : String) : Prop :=
  ∃ name, IsName name ∧ identifier = vocabulary.space ++ name ∧
    key = vocabulary.label ++ ":" ++ name

variable {vocabulary}

instance (name : String) : Decidable (IsName name) := inferInstanceAs (Decidable (_ ∧ _))

/-- The name is what follows the beginning. -/
theorem extends_iff {beginning text : String} :
    Extends beginning text ↔
      IsName (String.ofList (text.toList.drop beginning.toList.length)) ∧
        text = beginning ++ String.ofList (text.toList.drop beginning.toList.length) := by
  constructor
  · rintro ⟨name, isName, rfl⟩
    rw [String.toList_append, List.drop_left, String.ofList_toList]
    exact ⟨isName, rfl⟩
  · exact fun own => ⟨_, own⟩

instance (beginning text : String) : Decidable (Extends beginning text) :=
  decidable_of_iff _ extends_iff.symm

instance (key : String) : Decidable (vocabulary.IsKey key) :=
  inferInstanceAs (Decidable (Extends _ _))

instance (identifier : String) : Decidable (vocabulary.IsIdentifier identifier) :=
  inferInstanceAs (Decidable (Extends _ _))

theorem IsIdentifier.exists_key {identifier : String} (known : vocabulary.IsIdentifier identifier) :
    ∃ key, vocabulary.Names identifier key := by
  obtain ⟨name, isName, rfl⟩ := known
  exact ⟨_, name, isName, rfl, rfl⟩

/-! ## Characters -/

theorem afterLast_append {mark : Char} {before after : List Char} (plain : mark ∉ after) :
    Text.afterLast mark (String.ofList (before ++ mark :: after)) = String.ofList after := by
  have others : ∀ c ∈ after.reverse, (c != mark) = true := by
    intro c member
    rw [bne_iff_ne]
    rintro rfl
    exact plain (List.mem_reverse.mp member)
  rw [Text.afterLast, String.toList_ofList, List.reverse_append, List.reverse_cons,
    List.append_assoc, List.takeWhile_append_of_pos others, List.singleton_append,
    List.takeWhile_cons_of_neg (by simp), List.append_nil, List.reverse_reverse]

theorem cutFirst?_append {mark : Char} {before after : List Char} (plain : mark ∉ before) :
    Text.cutFirst? mark (String.ofList (before ++ mark :: after)) =
      some (String.ofList before, String.ofList after) := by
  have others : ∀ c ∈ before, (c != mark) = true := by
    intro c member
    rw [bne_iff_ne]
    rintro rfl
    exact plain member
  rw [Text.cutFirst?, String.toList_ofList, List.dropWhile_append_of_pos others,
    List.dropWhile_cons_of_neg (by simp), List.takeWhile_append_of_pos others,
    List.takeWhile_cons_of_neg (by simp), List.append_nil]

/-- A part does not stand in a text that lacks one of its characters. -/
theorem occursIn_eq_false {c : Char} {part text : List Char} (member : c ∈ part)
    (absent : c ∉ text) : Text.occursIn part text = false := by
  rw [← Bool.not_eq_true, Text.occursIn_iff]
  intro occurs
  exact absent (occurs.subset member)

theorem map_replace_eq_self {old new : Char} {text : List Char} (plain : old ∉ text) :
    (text.map fun c => if c = old then new else c) = text := by
  have each : ∀ c ∈ text, (if c = old then new else c) = id c := by
    intro c member
    refine if_neg ?_
    rintro rfl
    exact plain member
  rw [List.map_congr_left each, List.map_id]

/-! ## Identifiers and keys -/

/-- The identifier of a name has its key as the compact form. -/
theorem compact_space (name : String) (isName : IsName name) :
    Iri.compact (vocabulary.space ++ name) = vocabulary.label ++ ":" ++ name := by
  have segments : vocabulary.space ++ name = String.ofList
      (vocabulary.base.toList ++ '/' :: (vocabulary.label.toList ++ '#' :: name.toList)) := by
    apply String.toList_inj.mp
    simp [space]
  -- The last slash of an identifier is the one before the label.
  have slash : '/' ∉ vocabulary.label.toList ++ '#' :: name.toList := by
    simp [vocabulary.plain.1, isName.1]
  rw [Iri.compact, segments, afterLast_append slash, Text.replaceChar, String.toList_ofList,
    List.map_append, List.map_cons, map_replace_eq_self vocabulary.plain.2.1,
    map_replace_eq_self isName.2]
  apply String.toList_inj.mp
  simp

/-- The key of a name is expanded with the first namespace of its prefix. -/
theorem expand_key (name : String) (isName : IsName name) (namespaces : List (String × String)) :
    Iri.expand namespaces (vocabulary.label ++ ":" ++ name) =
      ((namespaces.lookup vocabulary.label).map (· ++ name)).getD
        (vocabulary.label ++ ":" ++ name) := by
  have parts : vocabulary.label ++ ":" ++ name = String.ofList
      (vocabulary.label.toList ++ ':' :: name.toList) := by
    apply String.toList_inj.mp
    simp
  have slash : '/' ∉ (vocabulary.label ++ ":" ++ name).toList := by
    simp [vocabulary.plain.1, isName.1]
  have relative : Text.occursIn "://".toList (vocabulary.label ++ ":" ++ name).toList = false :=
    occursIn_eq_false (by decide) slash
  rw [Iri.expand, relative, parts, cutFirst?_append vocabulary.plain.2.2]
  simp only [String.ofList_toList, Bool.false_eq_true, ↓reduceIte]
  cases namespaces.lookup vocabulary.label <;> rfl

namespace Names

variable {identifier other key known : String} (names : vocabulary.Names identifier key)

include names

/-- Identifiers and keys tell names apart in the same way. -/
theorem eq_iff (again : vocabulary.Names other known) : identifier = other ↔ key = known := by
  obtain ⟨name, _, rfl, rfl⟩ := names
  obtain ⟨second, _, rfl, rfl⟩ := again
  rw [String.append_right_inj, String.append_right_inj]

/-- A key is no identifier, as it has no slash. -/
theorem ne (again : vocabulary.Names other known) : identifier ≠ known := by
  obtain ⟨name, _, rfl, _⟩ := names
  obtain ⟨second, isName, _, rfl⟩ := again
  intro same
  have slash : '/' ∈ (vocabulary.space ++ name).toList := by simp [space]
  rw [same] at slash
  simp [vocabulary.plain.1, isName.1] at slash

/-- An identifier is compacted to the key that it is named by. -/
theorem compact_eq : Iri.compact identifier = key := by
  obtain ⟨name, isName, rfl, rfl⟩ := names
  exact compact_space name isName

end Names

/-! ## Tables -/

variable {α β : Type} {values : α → β → Prop}

/-- A table has identifiers where another has their keys, with related values. -/
def Renames (vocabulary : Vocabulary) (values : α → β → Prop) (table : Table α) (other : Table β) :
    Prop :=
  List.Forall₂ (fun entry partner => vocabulary.Names entry.1 partner.1 ∧ values entry.2 partner.2)
    table other

namespace Renames

variable {table : Table α} {other : Table β}

/-- Tables stay the same up to names if a value is put under an identifier and under its key. -/
theorem put (renames : vocabulary.Renames values table other) {identifier key : String}
    (names : vocabulary.Names identifier key) {value : α} {partner : β}
    (related : values value partner) :
    vocabulary.Renames values (table.put identifier value) (other.put key partner) := by
  induction renames with
  | nil => exact .cons ⟨names, related⟩ .nil
  | @cons entry partner rest others first later ih =>
    obtain ⟨known, old⟩ := entry
    obtain ⟨spelling, former⟩ := partner
    have same := first.1.eq_iff names
    by_cases here : known = identifier
    · rw [Table.put, Table.put, if_pos here, if_pos (same.mp here)]
      exact .cons ⟨first.1, related⟩ later
    · rw [Table.put, Table.put, if_neg here, if_neg (mt same.mpr here)]
      exact .cons first ih

theorem ofEntries {entries : List (String × α)} {others : List (String × β)}
    (renames : vocabulary.Renames values entries others) :
    vocabulary.Renames values (Table.ofEntries entries) (Table.ofEntries others) := by
  suffices ∀ table other, vocabulary.Renames values table other → vocabulary.Renames values
      (entries.foldl (fun table entry => table.put entry.1 entry.2) table)
      (others.foldl (fun table entry => table.put entry.1 entry.2) other) from this [] [] .nil
  induction renames with
  | nil => exact fun _ _ known => known
  | cons first _ ih =>
    intro table other known
    exact ih _ _ (known.put first.1 first.2)

/-- Looking up an identifier in one table is looking up its key in the other. -/
theorem lookup (renames : vocabulary.Renames values table other) {identifier key : String}
    (names : vocabulary.Names identifier key) :
    Option.Rel values (table.lookup identifier) (other.lookup key) := by
  induction renames with
  | nil => exact .none
  | @cons entry partner rest others first later ih =>
    obtain ⟨known, old⟩ := entry
    obtain ⟨spelling, former⟩ := partner
    have same := names.eq_iff first.1
    by_cases here : identifier = known
    · rw [Table.lookup_cons, Table.lookup_cons, if_pos here, if_pos (same.mp here)]
      exact .some first.2
    · rw [Table.lookup_cons, Table.lookup_cons, if_neg here, if_neg (mt same.mpr here)]
      exact ih

/-- A table with identifiers has no keys, and one with keys has no identifiers. -/
theorem lookup_eq_none (renames : vocabulary.Renames values table other) {identifier key : String}
    (names : vocabulary.Names identifier key) :
    table.lookup key = none ∧ other.lookup identifier = none := by
  induction renames with
  | nil => exact ⟨rfl, rfl⟩
  | @cons entry partner rest others first later ih =>
    obtain ⟨known, old⟩ := entry
    obtain ⟨spelling, former⟩ := partner
    rw [Table.lookup_cons, Table.lookup_cons, if_neg (first.1.ne names).symm,
      if_neg (names.ne first.1)]
    exact ih

/-- **Two ways of looking.** If an identifier is looked for as it is and then in its compact form, a
table with identifiers answers by the first way what a table with keys answers by the second. -/
theorem answers (renames : vocabulary.Renames values table other) {identifier key : String}
    (names : vocabulary.Names identifier key) :
    Option.Rel values
      ((table.lookup identifier).or (table.lookup (Iri.compact identifier)))
      ((other.lookup identifier).or (other.lookup (Iri.compact identifier))) := by
  obtain ⟨noKey, noIdentifier⟩ := renames.lookup_eq_none names
  rw [names.compact_eq, noKey, noIdentifier, Option.or_none, Option.none_or]
  exact renames.lookup names

end Renames

end Vocabulary

end WorkflowChain
