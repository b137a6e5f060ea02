import WorkflowChain.Knowledge.Document
import WorkflowChain.Proofs.Success
import Mathlib.Data.List.Nodup

/-! # The resources of a document

A document is decoded section by section. Each data resource and each tool is added as a resource of
its own, under an identifier that no earlier one has; a native type goes to the tool with its
identifier, or to a resource that has nothing but the type. What the list of resources says about an
identifier can therefore be read off the document (`Document.Lists`): at most one entry among the
data resources and the tools, and the last native type.
-/

namespace WorkflowChain

namespace Document

/-! ## What a document says -/

/-- The identifiers that a document is about, those of its three sections in order. -/
def identifiers (document : Document) : List String :=
  (document.data.keys ++ document.tools.keys ++ document.datanodeTypes.keys).map document.expand

/-- The native type among some entries that is given to an identifier last. -/
def lastType? (document : Document) (entries : Table String) (identifier : String) :
    Option String :=
  ((entries.filter fun entry => document.expand entry.1 = identifier).getLast?).map Prod.snd

/-- The native type that a document gives to an identifier. -/
def nativeType? (document : Document) (identifier : String) : Option String :=
  document.lastType? document.datanodeTypes identifier

/-- The resource with an identifier. -/
def find? (resources : List Resource) (identifier : String) : Option Resource :=
  resources.find? (·.identifier = identifier)

/-- A resource that is a tool, with a native type, or else one that only has the type. -/
def withType (identifier type : String) : Option Resource → Resource
  | some ⟨known, .tool descriptor, types⟩ =>
    ⟨known, .tool { descriptor with datanodeType := some type }, types⟩
  | _ => { identifier, entry := .tool { datanodeType := some type } }

/-- A resource is that of an entry of the data section. -/
structure IsData (document : Document) (entry : String × Value) (resource : Resource) : Prop where
  identifier : resource.identifier = document.expand entry.1
  types : resourceTypes entry.2 = .ok resource.types
  templates : ∃ templates, Entry.decodeTemplates (Datum.ofValue entry.2) = .ok templates ∧
    resource.entry = .dataset templates

/-- A resource is that of an entry of the tool section. -/
structure IsTool (document : Document) (entry : String × Value) (resource : Resource) : Prop where
  identifier : resource.identifier = document.expand entry.1
  types : resource.types = []
  descriptor : ∃ descriptor, Descriptor.decode (Datum.ofValue entry.2) = .ok descriptor ∧
    resource.entry = .tool (document.expandDescriptor descriptor)

/-- What the resources of a document are. -/
structure Lists (document : Document) (resources : List Resource) : Prop where
  /-- The keys of data resources and of tools have different identifiers. -/
  keys : ((document.data.keys ++ document.tools.keys).map document.expand).Nodup
  distinct : (resources.map Resource.identifier).Nodup
  identifiers : ∀ identifier,
    identifier ∈ resources.map Resource.identifier ↔ identifier ∈ document.identifiers
  data : ∀ entry ∈ document.data, ∃ templates types,
    Entry.decodeTemplates (Datum.ofValue entry.2) = .ok templates ∧
    resourceTypes entry.2 = .ok types ∧
    find? resources (document.expand entry.1) =
      some { identifier := document.expand entry.1, entry := .dataset templates, types }
  tool : ∀ entry ∈ document.tools, ∃ descriptor,
    Descriptor.decode (Datum.ofValue entry.2) = .ok descriptor ∧
    find? resources (document.expand entry.1) = some
      { identifier := document.expand entry.1
        entry := .tool { document.expandDescriptor descriptor with
          datanodeType :=
            (document.nativeType? (document.expand entry.1)).or descriptor.datanodeType } }
  type : ∀ entry ∈ document.datanodeTypes,
    document.expand entry.1 ∉ document.tools.keys.map document.expand →
      ∃ type, document.nativeType? (document.expand entry.1) = some type ∧
        find? resources (document.expand entry.1) = some
          { identifier := document.expand entry.1, entry := .tool { datanodeType := some type } }

/-! ## Resources by identifier -/

section Find

variable {resources : List Resource} {identifier : String}

theorem find?_eq_none_iff :
    find? resources identifier = none ↔ identifier ∉ resources.map Resource.identifier := by
  simp [find?, List.find?_eq_none]

theorem find?_of_mem (distinct : (resources.map Resource.identifier).Nodup) {resource : Resource}
    (member : resource ∈ resources) : find? resources resource.identifier = some resource := by
  cases found : find? resources resource.identifier with
  | none => exact absurd (List.mem_map_of_mem member) (find?_eq_none_iff.mp found)
  | some other =>
    have same : other.identifier = resource.identifier := by simpa using List.find?_some found
    rw [List.inj_on_of_nodup_map distinct (List.mem_of_find?_eq_some found) member same]

theorem find?_append (before after : List Resource) :
    find? (before ++ after) identifier =
      (find? before identifier).or (find? after identifier) :=
  List.find?_append

theorem find?_cons_self (resource : Resource) (rest : List Resource) :
    find? (resource :: rest) resource.identifier = some resource :=
  List.find?_cons_of_pos (decide_eq_true rfl)

theorem find?_cons_of_ne {resource : Resource} {rest : List Resource}
    (other : resource.identifier ≠ identifier) :
    find? (resource :: rest) identifier = find? rest identifier :=
  List.find?_cons_of_neg (by simpa using other)

end Find

/-! ## Adding resources of their own -/

/-- An identifier is new if no known resource has it. -/
theorem newIdentifier_ok {document : Document} {known : List Resource} {key identifier : String}
    (accepted : document.newIdentifier known key = .ok identifier) :
    identifier = document.expand key ∧ identifier ∉ known.map Resource.identifier := by
  unfold newIdentifier at accepted
  dsimp only at accepted
  split at accepted
  · cases accepted
  next fresh =>
    cases accepted
    refine ⟨rfl, ?_⟩
    simpa using fresh

theorem mapError_ok {α : Type} {outcome : Except ResourceFault α} {identifier : String} {value : α}
    (mapped : outcome.mapError (DocumentError.invalidResource identifier) = .ok value) :
    outcome = .ok value := by
  cases outcome with
  | error reason => cases mapped
  | ok found => exact congrArg Except.ok (Except.ok.inj mapped)

theorem decodedFor_ok {α : Type} {outcome : Decoded α} {identifier : String} {value : α}
    (decoded : decodedFor identifier outcome = .ok value) : outcome = .ok value := by
  cases outcome with
  | error reason => cases decoded
  | ok found => exact congrArg Except.ok (Except.ok.inj decoded)

theorem addData_ok {document : Document} {known after : List Resource} {entry : String × Value}
    (added : document.addData known entry = .ok after) :
    ∃ resource, after = known ++ [resource] ∧ document.IsData entry resource ∧
      resource.identifier ∉ known.map Resource.identifier := by
  obtain ⟨identifier, accepted, added⟩ := bind_ok.mp added
  obtain ⟨types, typed, added⟩ := bind_ok.mp added
  obtain ⟨templates, decoded, added⟩ := bind_ok.mp added
  obtain ⟨rfl, fresh⟩ := newIdentifier_ok accepted
  cases added
  exact ⟨_, rfl, ⟨rfl, mapError_ok typed, templates, decodedFor_ok decoded, rfl⟩, fresh⟩

theorem addTool_ok {document : Document} {known after : List Resource} {entry : String × Value}
    (added : document.addTool known entry = .ok after) :
    ∃ resource, after = known ++ [resource] ∧ document.IsTool entry resource ∧
      resource.identifier ∉ known.map Resource.identifier := by
  obtain ⟨identifier, accepted, added⟩ := bind_ok.mp added
  obtain ⟨rfl, fresh⟩ := newIdentifier_ok accepted
  cases described : entry.2.entries?.isNone with
  | true =>
    rw [described] at added
    cases added
  | false =>
    rw [described] at added
    obtain ⟨descriptor, decoded, added⟩ := bind_ok.mp added
    cases added
    exact ⟨_, rfl, ⟨rfl, rfl, descriptor, decodedFor_ok decoded, rfl⟩, fresh⟩

/-- A section in which each entry adds a resource of its own, under a new identifier. -/
theorem foldlM_add_ok {α : Type} (add : List Resource → α → Except DocumentError (List Resource))
    (made : α → Resource → Prop)
    (step : ∀ {known entry after}, add known entry = .ok after →
      ∃ resource, after = known ++ [resource] ∧ made entry resource ∧
        resource.identifier ∉ known.map Resource.identifier)
    {entries : List α} {known after : List Resource} (ran : entries.foldlM add known = .ok after)
    (distinct : (known.map Resource.identifier).Nodup) :
    ∃ added, after = known ++ added ∧ List.Forall₂ made entries added ∧
      (after.map Resource.identifier).Nodup := by
  induction entries generalizing known with
  | nil =>
    cases ran
    exact ⟨[], (List.append_nil _).symm, .nil, distinct⟩
  | cons entry rest ih =>
    obtain ⟨middle, first, ran⟩ := bind_ok.mp (List.foldlM_cons (m := Except DocumentError) ▸ ran)
    obtain ⟨resource, rfl, own, fresh⟩ := step first
    have later : ((known ++ [resource]).map Resource.identifier).Nodup := by
      rw [List.map_append, List.map_singleton, ← List.concat_eq_append]
      exact distinct.concat fresh
    obtain ⟨added, rfl, others, nodup⟩ := ih ran later
    exact ⟨resource :: added, List.append_assoc _ _ _, .cons own others, nodup⟩

/-! ## Giving native types -/

theorem withType_withType (identifier earlier later : String) (resource : Option Resource) :
    withType identifier later (some (withType identifier earlier resource)) =
      withType identifier later resource := by
  rcases resource with _ | ⟨_, _ | _, _⟩ <;> rfl

/-- A native type goes to the tool with its identifier, or else to a new resource in the end. -/
theorem giveType_ok {identifier type : String} {known after : List Resource}
    (given : giveType identifier type known = .ok after) :
    (identifier ∉ known.map Resource.identifier ∧
        after = known ++ [withType identifier type none]) ∨
      ∃ before descriptor types rest, identifier ∉ before.map Resource.identifier ∧
        known = before ++ ⟨identifier, .tool descriptor, types⟩ :: rest ∧
        after = before ++
          withType identifier type (some ⟨identifier, .tool descriptor, types⟩) :: rest := by
  induction known generalizing after with
  | nil =>
    cases given
    exact .inl ⟨List.not_mem_nil, rfl⟩
  | cons resource rest ih =>
    obtain ⟨own, entry, types⟩ := resource
    by_cases here : own = identifier
    · subst here
      rw [giveType, if_pos rfl] at given
      cases entry with
      | dataset templates => cases given
      | tool descriptor =>
        cases given
        exact .inr ⟨[], descriptor, types, rest, List.not_mem_nil, rfl, rfl⟩
    · rw [giveType, if_neg here] at given
      obtain ⟨others, below, given⟩ := bind_ok.mp given
      cases given
      have beyond : ∀ {names : List String}, identifier ∉ names → identifier ∉ own :: names :=
        fun fresh => List.not_mem_cons_of_ne_of_not_mem (Ne.symm here) fresh
      rcases ih below with ⟨fresh, rfl⟩ | ⟨before, descriptor, tags, later, fresh, rfl, rfl⟩
      · exact .inl ⟨beyond fresh, rfl⟩
      · exact .inr ⟨⟨own, entry, types⟩ :: before, descriptor, tags, later, beyond fresh, rfl, rfl⟩

section GiveType

variable {identifier type : String} {known after : List Resource}
  (given : giveType identifier type known = .ok after)

include given

/-- A native type that is given to a resource changes no identifier, and adds one if there is none
yet. -/
theorem map_identifier_giveType :
    after.map Resource.identifier =
      if identifier ∈ known.map Resource.identifier then known.map Resource.identifier
      else known.map Resource.identifier ++ [identifier] := by
  rcases giveType_ok given with
    ⟨fresh, rfl⟩ | ⟨before, descriptor, types, rest, fresh, rfl, rfl⟩
  · rw [if_neg fresh, List.map_append]
    rfl
  · rw [if_pos (by simp), List.map_append, List.map_append]
    rfl

theorem mem_identifiers_giveType (wanted : String) :
    wanted ∈ after.map Resource.identifier ↔
      wanted ∈ known.map Resource.identifier ∨ wanted = identifier := by
  rw [map_identifier_giveType given]
  split
  next member => exact ⟨.inl, fun either => either.elim id fun same => same ▸ member⟩
  · rw [List.mem_append, List.mem_singleton]

/-- A native type is given to the resource with the identifier, and no other resource changes. -/
theorem find?_giveType (wanted : String) :
    find? after wanted =
      if wanted = identifier then some (withType identifier type (find? known identifier))
      else find? known wanted := by
  rcases giveType_ok given with
    ⟨fresh, rfl⟩ | ⟨before, descriptor, types, rest, fresh, rfl, rfl⟩
  · have absent := find?_eq_none_iff.mpr fresh
    by_cases same : wanted = identifier
    · subst same
      rw [if_pos rfl, absent, find?_append, absent]
      exact find?_cons_self _ _
    · rw [if_neg same, find?_append, find?_cons_of_ne (Ne.symm same)]
      exact Option.or_none
  · have absent := find?_eq_none_iff.mpr fresh
    by_cases same : wanted = identifier
    · subst same
      rw [if_pos rfl, find?_append, find?_append, absent, Option.none_or, Option.none_or]
      rw [find?_cons_self ⟨wanted, .tool descriptor, types⟩]
      exact find?_cons_self _ _
    · rw [if_neg same, find?_append, find?_append, find?_cons_of_ne (Ne.symm same),
        find?_cons_of_ne (Ne.symm same)]

/-- Only a tool is given a native type. -/
theorem tool_of_giveType {resource : Resource} (found : find? known identifier = some resource) :
    ∃ descriptor, resource.entry = .tool descriptor := by
  rcases giveType_ok given with ⟨fresh, _⟩ | ⟨before, descriptor, types, rest, fresh, rfl, _⟩
  · rw [find?_eq_none_iff.mpr fresh] at found
    cases found
  · rw [find?_append, find?_eq_none_iff.mpr fresh, Option.none_or,
      find?_cons_self ⟨identifier, .tool descriptor, types⟩] at found
    cases found
    exact ⟨descriptor, rfl⟩

end GiveType

/-- What giving the native types of some entries makes of the known resources. -/
structure Types (document : Document) (entries : Table String) (known after : List Resource) :
    Prop where
  distinct : (known.map Resource.identifier).Nodup → (after.map Resource.identifier).Nodup
  identifiers : ∀ identifier, identifier ∈ after.map Resource.identifier ↔
    identifier ∈ known.map Resource.identifier ∨ identifier ∈ entries.keys.map document.expand
  /-- The last type for an identifier counts. -/
  find : ∀ identifier, find? after identifier =
    (document.lastType? entries identifier).elim (find? known identifier)
      fun type => some (withType identifier type (find? known identifier))
  tool : ∀ identifier type resource, document.lastType? entries identifier = some type →
    find? known identifier = some resource → ∃ descriptor, resource.entry = .tool descriptor

/-- A later entry for an identifier counts before an earlier one. -/
theorem lastType?_cons (document : Document) (entry : String × String) (rest : Table String)
    (identifier : String) :
    document.lastType? (entry :: rest) identifier =
      (document.lastType? rest identifier).or
        (if identifier = document.expand entry.1 then some entry.2 else none) := by
  unfold lastType?
  by_cases same : document.expand entry.1 = identifier
  · rw [List.filter_cons_of_pos (by simpa using same), List.getLast?_cons, if_pos same.symm]
    cases (rest.filter fun entry => document.expand entry.1 = identifier).getLast? <;> rfl
  · rw [List.filter_cons_of_neg (by simpa using same), if_neg (Ne.symm same), Option.or_none]

/-- The native types of a document are given to its resources, the last one of each identifier. -/
theorem types_of_foldlM {document : Document} {entries : Table String}
    {known after : List Resource}
    (ran : entries.foldlM document.addDatanodeType known = .ok after) :
    document.Types entries known after := by
  induction entries generalizing known with
  | nil =>
    cases ran
    exact ⟨id, fun _ => by simp [Table.keys], fun _ => rfl, fun _ _ _ none => nomatch none⟩
  | cons entry rest ih =>
    obtain ⟨middle, given, ran⟩ := bind_ok.mp (List.foldlM_cons (m := Except DocumentError) ▸ ran)
    have later := ih ran
    constructor
    case distinct =>
      intro nodup
      apply later.distinct
      rw [map_identifier_giveType given]
      split
      · exact nodup
      next fresh =>
        rw [← List.concat_eq_append]
        exact nodup.concat fresh
    case identifiers =>
      intro identifier
      have keys : Table.keys (entry :: rest) = entry.1 :: Table.keys rest := rfl
      rw [later.identifiers, mem_identifiers_giveType given, or_assoc, keys, List.map_cons,
        List.mem_cons]
    case find =>
      intro identifier
      rw [later.find, find?_giveType given, lastType?_cons]
      by_cases same : identifier = document.expand entry.1
      · subst same
        rw [if_pos rfl, if_pos rfl]
        cases document.lastType? rest (document.expand entry.1) with
        | none => rfl
        -- A later type replaces the one that was given first.
        | some type => exact congrArg some (withType_withType _ _ _ _)
      · rw [if_neg same, if_neg same, Option.or_none]
    case tool =>
      intro identifier type resource typed found
      by_cases same : identifier = document.expand entry.1
      · subst same
        exact tool_of_giveType given found
      · rw [lastType?_cons, if_neg same, Option.or_none] at typed
        apply later.tool identifier type resource typed
        rw [find?_giveType given, if_neg same, found]

/-- What is listed with a native type has a last one. -/
theorem exists_lastType? {document : Document} {entries : Table String}
    {entry : String × String} (listed : entry ∈ entries) :
    ∃ type, document.lastType? entries (document.expand entry.1) = some type := by
  have member : entry ∈ entries.filter fun other =>
      document.expand other.1 = document.expand entry.1 :=
    List.mem_filter.mpr ⟨listed, decide_eq_true rfl⟩
  rw [lastType?, List.getLast?_eq_some_getLast (List.ne_nil_of_mem member)]
  exact ⟨_, rfl⟩

/-! ## All resources -/

/-- Resources of their own have the identifiers of their keys, in order. -/
theorem map_identifier_of_forall₂ {α : Type} {document : Document} {table : Table α}
    {made : String × α → Resource → Prop} {added : List Resource}
    (each : List.Forall₂ made table added)
    (named : ∀ {entry resource}, made entry resource →
      resource.identifier = document.expand entry.1) :
    added.map Resource.identifier = table.keys.map document.expand := by
  induction each with
  | nil => rfl
  | cons own _ ih =>
    rw [List.map_cons, ih, named own]
    rfl

theorem exists_of_forall₂ {α β : Type} {made : α → β → Prop} {items : List α} {results : List β}
    (each : List.Forall₂ made items results) {item : α} (member : item ∈ items) :
    ∃ result ∈ results, made item result := by
  induction each with
  | nil => exact absurd member List.not_mem_nil
  | cons own _ ih =>
    rcases List.mem_cons.mp member with rfl | member
    · exact ⟨_, List.mem_cons_self, own⟩
    · obtain ⟨result, listed, made⟩ := ih member
      exact ⟨result, List.mem_cons_of_mem _ listed, made⟩

/-- **The resources of a document.** -/
theorem lists_of_resources {document : Document} {resources : List Resource}
    (decoded : document.resources = .ok resources) : document.Lists resources := by
  unfold Document.resources at decoded
  obtain ⟨data, loaded, decoded⟩ := bind_ok.mp decoded
  obtain ⟨all, described, typed⟩ := bind_ok.mp decoded
  have empty : (([] : List Resource).map Resource.identifier).Nodup := List.nodup_nil
  obtain ⟨_, rfl, isData, distinct⟩ :=
    foldlM_add_ok document.addData document.IsData addData_ok loaded empty
  obtain ⟨tools, rfl, isTool, distinct⟩ :=
    foldlM_add_ok document.addTool document.IsTool addTool_ok described distinct
  have given := types_of_foldlM typed
  have dataKeys := map_identifier_of_forall₂ isData IsData.identifier
  have toolKeys := map_identifier_of_forall₂ isTool IsTool.identifier
  have keys : (data ++ tools).map Resource.identifier =
      (document.data.keys ++ document.tools.keys).map document.expand := by
    rw [List.map_append, List.map_append, dataKeys, toolKeys]
  constructor
  case keys => exact keys ▸ distinct
  case distinct => exact given.distinct distinct
  case identifiers =>
    intro identifier
    rw [given.identifiers, keys, ← List.mem_append, ← List.map_append]
    rfl
  case data =>
    intro entry listed
    obtain ⟨⟨_, _, types⟩, member, own⟩ := exists_of_forall₂ isData listed
    obtain ⟨templates, loaded, rfl⟩ := own.templates
    obtain rfl := own.identifier
    have found := find?_of_mem distinct (List.mem_append_left tools member)
    refine ⟨templates, types, loaded, own.types, ?_⟩
    rw [given.find]
    cases named : document.lastType? document.datanodeTypes (document.expand entry.1) with
    | none => exact found
    | some type =>
      -- A dataset is given no type.
      obtain ⟨_, tool⟩ := given.tool _ _ _ named found
      cases tool
  case tool =>
    intro entry listed
    obtain ⟨⟨_, _, _⟩, member, own⟩ := exists_of_forall₂ isTool listed
    obtain ⟨descriptor, described, rfl⟩ := own.descriptor
    obtain rfl := own.identifier
    obtain rfl := own.types
    have found := find?_of_mem distinct (List.mem_append_right data member)
    refine ⟨descriptor, described, ?_⟩
    rw [given.find, found, nativeType?]
    cases document.lastType? document.datanodeTypes (document.expand entry.1) <;> rfl
  case type =>
    intro entry listed other
    obtain ⟨type, named⟩ := exists_lastType? listed
    refine ⟨type, named, ?_⟩
    rw [given.find, named]
    cases found : find? (data ++ tools) (document.expand entry.1) with
    | none => rfl
    | some resource =>
      -- What is given a type is a tool, and tools have their identifiers from the tool section.
      obtain ⟨_, tool⟩ := given.tool _ _ _ named found
      have same : resource.identifier = document.expand entry.1 := by
        simpa using List.find?_some found
      rcases List.mem_append.mp (List.mem_of_find?_eq_some found) with member | member
      · obtain ⟨_, _, own⟩ := exists_of_forall₂ isData.flip member
        obtain ⟨_, _, dataset⟩ := own.templates
        cases dataset.symm.trans tool
      · rw [← toolKeys, ← same] at other
        exact absurd (List.mem_map_of_mem member) other

end Document

end WorkflowChain
