import WorkflowChain.Execution.Chain
import WorkflowChain.Proofs.Data.Fields

/-! # The form of chains

In a document, neither the steps of a chain nor the files of a tool say of which kind they are. What
can be read as the first kind is of that kind, and else of the second. The inputs of a pipeline are
never those of a tool (`PipelineStep.exists_read_error`), even if a slot is called like one of them:
the arguments of a tool are a list, and a slot has a text.

In key order, the slots of a pipeline stand between its fields. So what was read is told for any
entries that were taken so far (`PipelineInputs.takeEntries_seen`). A chain whose slots are told
apart from the fields is decoded to the chain with its files and slots in key order
(`Chain.decode_inKeyOrder_encode`).
-/

namespace WorkflowChain

/-- One more entry in a table makes a difference for its own key only. -/
theorem Table.if_mem_keys_concat {α β : Type} (table : Table α) (entry : String × α) (key : String)
    (value : Option β) :
    (if key ∈ Table.keys (table ++ [entry]) then value else none) =
      if entry.1 = key then value else if key ∈ table.keys then value else none := by
  have grown : key ∈ Table.keys (table ++ [entry]) ↔ entry.1 = key ∨ key ∈ table.keys := by
    rw [keys, List.map_append, List.mem_append, List.map_singleton, List.mem_singleton, or_comm,
      eq_comm]
    rfl
  by_cases own : entry.1 = key
  · rw [if_pos (grown.mpr (.inl own)), if_pos own]
  · rw [if_neg own]
    exact if_congr (grown.trans (or_iff_right own)) rfl rfl

/-! ## Files -/

namespace FileBinding

/-- The entries of a binding are written in key order. -/
theorem inKeyOrder_encode (binding : FileBinding) : binding.encode.inKeyOrder = binding.encode := by
  cases binding <;>
    simp only [encode, Value.inKeyOrder, Value.inKeyOrderEntries, Table.sorted, List.foldl_cons,
      List.foldl_nil, Table.place, String.reduceLT, String.reduceEq, ↓reduceIte]

/-- A file from a slot is read as such, and a file from a fixed place cannot be read as one from a
slot. -/
theorem decode_encode (binding : FileBinding) :
    decode (Datum.ofValue binding.encode) = .ok binding := by
  cases binding <;> rfl

end FileBinding

namespace ToolInputs

variable (inputs : ToolInputs)

/-- The inputs of a tool with their files in key order. -/
def inKeyOrder : ToolInputs := { inputs with files := Table.sorted inputs.files }

/-- The files of a tool as a value. -/
def encodeFiles (files : Table FileBinding) : Value :=
  .map (files.map (Prod.map id FileBinding.encode))

/-- The table of files is brought into the order of its keys, and nothing else changes in it. -/
theorem inKeyOrder_encodeFiles (files : Table FileBinding) :
    (encodeFiles files).inKeyOrder = encodeFiles (Table.sorted files) := by
  have ordered : ∀ file ∈ files, (Prod.map id Value.inKeyOrder ∘ Prod.map id FileBinding.encode)
      file = Prod.map id FileBinding.encode file :=
    fun file _ => Prod.ext rfl file.2.inKeyOrder_encode
  rw [encodeFiles, Value.inKeyOrder, Value.inKeyOrderEntries_eq_map, List.map_map,
    List.map_congr_left ordered, Table.sorted_map]
  rfl

/-- The values of the fields in key order. -/
def orderedWritten : Table Value := [
  ("arguments", .texts inputs.arguments),
  ("command", .text inputs.command),
  ("files", encodeFiles (Table.sorted inputs.files)),
  ("outputs", .texts inputs.outputs)]

theorem encode_eq : inputs.encode = .map [
    ("command", .text inputs.command), ("arguments", .texts inputs.arguments),
    ("files", encodeFiles inputs.files), ("outputs", .texts inputs.outputs)] := by
  rfl

/-- In key order the inputs of a tool are the entries from which they are decoded. -/
theorem inKeyOrder_encode : inputs.encode.inKeyOrder = .map inputs.orderedWritten := by
  rw [encode_eq, Value.inKeyOrder]
  simp only [Value.inKeyOrderEntries, Value.inKeyOrder_texts, inKeyOrder_encodeFiles]
  simp only [Table.sorted, List.foldl_cons, List.foldl_nil, Value.inKeyOrder, Table.place,
    String.reduceLT, String.reduceEq, ↓reduceIte, orderedWritten]

/-- Decoding takes up all inputs of a tool from the entries in key order. -/
theorem takeEntries_orderedWritten :
    reader.takeEntries (Datum.ofEntries inputs.orderedWritten) reader.start =
      .ok { arguments := some inputs.arguments
            command := some inputs.command
            files := some (Table.sorted inputs.files)
            outputs := some inputs.outputs } := by
  have decoded : (Datum.ofValue (encodeFiles (Table.sorted inputs.files))).decodeTable
      FileBinding.decode = .ok (Table.sorted inputs.files) :=
    Datum.decodeTable_map (Table.ascending_sorted _).nodup fun file _ => file.2.decode_encode
  let later (count : Nat) : List (Datum × Datum) :=
    Datum.ofEntries (inputs.orderedWritten.drop count)
  let arguments : Draft := { arguments := some inputs.arguments }
  let command := { arguments with command := some inputs.command }
  let files := { command with files := some (Table.sorted inputs.files) }
  let outputs := { files with outputs := some inputs.outputs }
  calc reader.takeEntries (later 0) {}
    _ = reader.takeEntries (later 1) arguments :=
      reader.takeEntries_cons rfl rfl (bind_ok.mpr ⟨_, Datum.decodeList_texts _, rfl⟩)
    _ = reader.takeEntries (later 2) command := reader.takeEntries_cons rfl rfl rfl
    _ = reader.takeEntries (later 3) files :=
      reader.takeEntries_cons rfl rfl (bind_ok.mpr ⟨_, decoded, rfl⟩)
    _ = reader.takeEntries (later 4) outputs :=
      reader.takeEntries_cons rfl rfl (bind_ok.mpr ⟨_, Datum.decodeList_texts _, rfl⟩)

/-- The inputs of a tool are decoded to themselves, with their files in key order. -/
theorem read_inKeyOrder_encode :
    reader.read (Datum.ofValue inputs.encode.inKeyOrder) = .ok inputs.inKeyOrder := by
  rw [inKeyOrder_encode]
  exact bind_ok.mpr ⟨_, inputs.takeEntries_orderedWritten, rfl⟩

end ToolInputs

/-! ## Inputs of pipelines -/

namespace PipelineInputs

/-- The keys of the fields, which are no slots. -/
def fieldKeys : List String := ["pipeline", "run_pipeline", "from_cuds", "to_cuds"]

/-- The slots of a pipeline are told apart, from each other and from the fields. -/
structure WellFormed (inputs : PipelineInputs) : Prop where
  distinct : inputs.context.keys.Nodup
  free : ∀ slot ∈ inputs.context.keys, slot ∉ fieldKeys

variable (inputs : PipelineInputs)

/-- The inputs of a pipeline with their slots in key order. -/
def inKeyOrder : PipelineInputs := { inputs with context := Table.sorted inputs.context }

def writtenContext (context : Table String) : Table Value := context.map (Prod.map id .text)

/-- The values of the fields that are there. -/
def writtenFields : Table Value :=
  [("pipeline", inputs.pipeline.encode), ("run_pipeline", .text inputs.runPipeline)]
    ++ encodeNames "from_cuds" inputs.fromContainer ++ encodeNames "to_cuds" inputs.toContainer

/-- All entries: those of the fields and those of the slots. -/
def written : Table Value := inputs.writtenFields ++ writtenContext inputs.context

theorem encode_eq : inputs.encode = .map inputs.written := rfl

theorem mem_encodeNames {key : String} {names : List String} {entry : String × Value} :
    entry ∈ encodeNames key names ↔ names ≠ [] ∧ entry = (key, .texts names) := by
  rw [encodeNames]
  cases names <;> simp

/-- What is written for the fields of a pipeline: two entries always, and two more if they have
names. -/
theorem mem_writtenFields {entry : String × Value} :
    entry ∈ inputs.writtenFields ↔
      entry = ("pipeline", inputs.pipeline.encode) ∨
      entry = ("run_pipeline", .text inputs.runPipeline) ∨
      (inputs.fromContainer ≠ [] ∧ entry = ("from_cuds", .texts inputs.fromContainer)) ∨
      (inputs.toContainer ≠ [] ∧ entry = ("to_cuds", .texts inputs.toContainer)) := by
  simp only [writtenFields, List.mem_append, List.mem_cons, List.not_mem_nil, or_false,
    mem_encodeNames, or_assoc]

/-- In key order the entries of fields and of the context are mixed. -/
theorem inKeyOrder_encode : inputs.encode.inKeyOrder = .map (Table.sorted inputs.written) := by
  have ordered : ∀ entry ∈ inputs.written, Prod.map id Value.inKeyOrder entry = entry := by
    intro entry listed
    refine Prod.ext rfl ?_
    rcases List.mem_append.mp listed with field | slot
    · rcases inputs.mem_writtenFields.mp field with rfl | rfl | ⟨_, rfl⟩ | ⟨_, rfl⟩
      · rfl
      · rfl
      · exact Value.inKeyOrder_texts _
      · exact Value.inKeyOrder_texts _
    · obtain ⟨_, _, rfl⟩ := List.mem_map.mp slot
      rfl
  rw [encode_eq, Value.inKeyOrder, Value.inKeyOrderEntries_eq_map, List.map_congr_left ordered,
    List.map_id']

/-- What was read of the inputs when some of their entries were taken. -/
def seen (taken : Table Value) : Draft where
  pipeline := if "pipeline" ∈ taken.keys then some inputs.pipeline else none
  runPipeline := if "run_pipeline" ∈ taken.keys then some inputs.runPipeline else none
  fromContainer := if "from_cuds" ∈ taken.keys then some inputs.fromContainer else none
  toContainer := if "to_cuds" ∈ taken.keys then some inputs.toContainer else none
  others := Datum.ofEntries (taken.filter fun entry => entry.1 ∉ fieldKeys)

/-- The draft after one more entry: a field that is taken up, or another entry of the context. -/
theorem seen_concat (taken : Table Value) (entry : String × Value) :
    inputs.seen (taken ++ [entry]) =
      { pipeline :=
          if entry.1 = "pipeline" then some inputs.pipeline else (inputs.seen taken).pipeline
        runPipeline :=
          if entry.1 = "run_pipeline" then some inputs.runPipeline
          else (inputs.seen taken).runPipeline
        fromContainer :=
          if entry.1 = "from_cuds" then some inputs.fromContainer
          else (inputs.seen taken).fromContainer
        toContainer :=
          if entry.1 = "to_cuds" then some inputs.toContainer else (inputs.seen taken).toContainer
        others :=
          if entry.1 ∈ fieldKeys then (inputs.seen taken).others
          else (inputs.seen taken).others ++ [(Datum.text entry.1, Datum.ofValue entry.2)] } := by
  have others : Datum.ofEntries ((taken ++ [entry]).filter fun entry => entry.1 ∉ fieldKeys) =
      if entry.1 ∈ fieldKeys then (inputs.seen taken).others
      else (inputs.seen taken).others ++ [(Datum.text entry.1, Datum.ofValue entry.2)] := by
    rw [List.filter_append, Datum.ofEntries_eq_map, List.map_append, ← Datum.ofEntries_eq_map,
      List.filter_singleton]
    by_cases field : entry.1 ∈ fieldKeys <;> simp [field, seen]
  simp only [seen, Table.if_mem_keys_concat] at others ⊢
  rw [others]

variable {inputs} (wellFormed : inputs.WellFormed) {taken : Table Value}

include wellFormed

/-- Every entry is added to what was read before. -/
theorem takeEntries_seen_cons {entry : String × Value} (listed : entry ∈ inputs.written)
    (fresh : entry.1 ∉ taken.keys) (rest : List (Datum × Datum)) :
    takeEntries ((Datum.text entry.1, Datum.ofValue entry.2) :: rest) (inputs.seen taken) =
      takeEntries rest (inputs.seen (taken ++ [entry])) := by
  rw [seen_concat]
  -- The key is fresh, so the place of a field is still empty. A slot has no place of its own.
  rcases List.mem_append.mp listed with field | slot
  · rcases inputs.mem_writtenFields.mp field with rfl | rfl | ⟨_, rfl⟩ | ⟨_, rfl⟩
    · have unread : (inputs.seen taken).pipeline = none := if_neg fresh
      change (if (inputs.seen taken).pipeline.isSome then _ else _) = _
      rw [unread]
      rfl
    · have unread : (inputs.seen taken).runPipeline = none := if_neg fresh
      change (if (inputs.seen taken).runPipeline.isSome then _ else _) = _
      rw [unread]
      rfl
    · have unread : (inputs.seen taken).fromContainer = none := if_neg fresh
      change (if (inputs.seen taken).fromContainer.isSome then _ else _) = _
      rw [unread, Datum.decodeList_texts]
      rfl
    · have unread : (inputs.seen taken).toContainer = none := if_neg fresh
      change (if (inputs.seen taken).toContainer.isSome then _ else _) = _
      rw [unread, Datum.decodeList_texts]
      rfl
  · obtain ⟨⟨name, reference⟩, member, rfl⟩ := List.mem_map.mp slot
    have free : name ∉ fieldKeys := wellFormed.free name (List.mem_map_of_mem member)
    have others : ∀ key ∈ fieldKeys, name ≠ key := fun key known same => free (same ▸ known)
    simp only [fieldKeys, List.forall_mem_cons] at others
    obtain ⟨pipeline, runPipeline, fromContainer, toContainer, _⟩ := others
    simp only [Prod.map_apply, id, if_neg pipeline, if_neg runPipeline, if_neg fromContainer,
      if_neg toContainer, if_neg free]
    rw [takeEntries]
    split
    next same => exact absurd (Option.some.inj same) pipeline
    next same => exact absurd (Option.some.inj same) runPipeline
    next same => exact absurd (Option.some.inj same) fromContainer
    next same => exact absurd (Option.some.inj same) toContainer
    · rfl

/-- Entries that were written are taken up in any order, as long as none comes twice. -/
theorem takeEntries_seen {later : Table Value} (distinct : (taken ++ later).keys.Nodup)
    (listed : ∀ entry ∈ later, entry ∈ inputs.written) :
    takeEntries (Datum.ofEntries later) (inputs.seen taken) = .ok (inputs.seen (taken ++ later)) := by
  -- The invariant is that the draft is what was seen of the entries that were taken so far.
  induction later generalizing taken with
  | nil => rw [List.append_nil]; rfl
  | cons entry rest ih =>
    have ⟨own, others⟩ := List.forall_mem_cons.mp listed
    have fresh : entry.1 ∉ taken.keys := by
      rw [Table.keys, List.map_append, List.nodup_append] at distinct
      exact fun known => distinct.2.2 _ known _ List.mem_cons_self rfl
    rw [List.append_cons] at distinct ⊢
    exact (takeEntries_seen_cons wellFormed own fresh _).trans (ih distinct others)

omit wellFormed in

/-- The fields of a pipeline are written in the order of their keys among all field keys. -/
theorem keys_writtenFields_sublist : inputs.writtenFields.keys.Sublist fieldKeys := by
  have names : ∀ key names, (Table.keys (encodeNames key names)).Sublist [key] := by
    intro key names
    cases names with
    | nil => exact List.nil_sublist _
    | cons => exact List.Sublist.refl _
  rw [writtenFields, Table.keys, List.map_append, List.map_append]
  exact ((List.Sublist.refl ["pipeline", "run_pipeline"]).append (names ..)).append (names ..)

omit wellFormed in

/-- The slots of a context are the keys under which it is written. -/
theorem keys_writtenContext (context : Table String) :
    (writtenContext context).keys = context.keys := by
  rw [writtenContext, Table.keys, List.map_map]
  rfl

/-- No key is written twice for a pipeline whose slots are not called like fields. -/
theorem nodup_written : inputs.written.keys.Nodup := by
  have fields : inputs.writtenFields.keys.Sublist fieldKeys := keys_writtenFields_sublist
  have slots : (writtenContext inputs.context).keys.Nodup := by
    rw [keys_writtenContext]
    exact wellFormed.distinct
  rw [written, Table.keys, List.map_append]
  refine List.nodup_append.mpr ⟨fields.nodup (by decide), slots, ?_⟩
  rintro key field _ slot rfl
  rw [← Table.keys, keys_writtenContext] at slot
  exact wellFormed.free key slot (fields.subset field)

/-- What is left of the entries in key order without the fields is the context in key order. -/
theorem filter_sorted_written :
    (Table.sorted inputs.written).filter (fun entry => entry.1 ∉ fieldKeys) =
      writtenContext (Table.sorted inputs.context) := by
  have fields : inputs.writtenFields.filter (fun entry => entry.1 ∉ fieldKeys) = [] := by
    refine List.filter_eq_nil_iff.mpr fun entry listed => ?_
    have known : entry.1 ∈ fieldKeys :=
      keys_writtenFields_sublist.subset (List.mem_map_of_mem listed)
    simpa using known
  have slots : (writtenContext inputs.context).filter (fun entry => entry.1 ∉ fieldKeys) =
      writtenContext inputs.context := by
    refine List.filter_eq_self.mpr fun entry listed => ?_
    have slot : entry.1 ∈ (writtenContext inputs.context).keys := List.mem_map_of_mem listed
    rw [keys_writtenContext] at slot
    simpa using wellFormed.free _ slot
  have perm := (Table.perm_sorted (nodup_written wellFormed)).filter
    fun entry => entry.1 ∉ fieldKeys
  rw [written, List.filter_append, fields, slots, List.nil_append, ← written] at perm
  have ascending : Table.Ascending ((Table.sorted inputs.written).filter
      fun entry => entry.1 ∉ fieldKeys) :=
    (Table.ascending_sorted inputs.written).sublist (List.filter_sublist.map Prod.fst)
  rw [writtenContext, ← Table.sorted_map]
  exact (Table.sorted_eq_of_perm perm.symm ascending).symm

/-- The inputs of a pipeline are decoded to themselves, with their context in key order. The slots
are told from the fields by their keys, so none of them may be called like a field. -/
theorem decode_inKeyOrder_encode :
    decode (Datum.ofValue inputs.encode.inKeyOrder) = .ok inputs.inKeyOrder := by
  have perm := (Table.perm_sorted (nodup_written wellFormed)).map Prod.fst
  have known : ∀ key, key ∈ (Table.sorted inputs.written).keys ↔ key ∈ inputs.written.keys :=
    fun _ => perm.mem_iff
  have taken : takeEntries (Datum.ofEntries (Table.sorted inputs.written)) {} =
      .ok (inputs.seen (Table.sorted inputs.written)) := by
    have distinct : (Table.keys ([] ++ Table.sorted inputs.written)).Nodup :=
      (Table.ascending_sorted _).nodup
    exact takeEntries_seen wellFormed distinct fun _ => Table.mem_of_mem_sorted
  have pipeline : (inputs.seen (Table.sorted inputs.written)).pipeline = some inputs.pipeline :=
    if_pos ((known _).mpr List.mem_cons_self)
  have runPipeline : (inputs.seen (Table.sorted inputs.written)).runPipeline =
      some inputs.runPipeline :=
    if_pos ((known _).mpr (List.mem_cons_of_mem _ List.mem_cons_self))
  have names : ∀ key names, (names ≠ [] → (key, Value.texts names) ∈ inputs.writtenFields) →
      (if key ∈ (Table.sorted inputs.written).keys then some names else none).getD [] = names := by
    intro key names listed
    split
    · rfl
    next absent =>
      by_contra nonempty
      have field := listed (Ne.symm nonempty)
      exact absent ((known key).mpr (List.mem_map_of_mem (List.mem_append_left _ field)))
  have fromContainer : (inputs.seen (Table.sorted inputs.written)).fromContainer.getD [] =
      inputs.fromContainer :=
    names _ _ fun nonempty => inputs.mem_writtenFields.mpr (.inr (.inr (.inl ⟨nonempty, rfl⟩)))
  have toContainer : (inputs.seen (Table.sorted inputs.written)).toContainer.getD [] =
      inputs.toContainer :=
    names _ _ fun nonempty => inputs.mem_writtenFields.mpr (.inr (.inr (.inr ⟨nonempty, rfl⟩)))
  have context : (Datum.map (inputs.seen (Table.sorted inputs.written)).others).decodeTable
      Datum.decodeText = .ok (Table.sorted inputs.context) := by
    change (Datum.map (Datum.ofEntries _)).decodeTable _ = _
    rw [filter_sorted_written wellFormed]
    exact Datum.decodeTable_map (Table.ascending_sorted _).nodup fun _ _ => rfl
  rw [inKeyOrder_encode, Datum.ofValue, decode, taken]
  change required _ (inputs.seen _).pipeline >>= _ = _
  rw [pipeline]
  change required _ (inputs.seen _).runPipeline >>= _ = _
  rw [runPipeline]
  change Datum.decodeTable _ _ >>= _ = _
  rw [context, fromContainer, toContainer]
  rfl

end PipelineInputs

/-! ## Steps of either kind -/

namespace ToolInputs

theorem readsField_arguments :
    reader.ReadsField .arguments "arguments" (Datum.decodeList Datum.decodeText)
      Draft.arguments := by
  constructor
  case spelled =>
    intro written
    constructor
    · intro read
      dsimp only [reader] at read
      split at read <;> first | rfl | cases read
    · rintro rfl
      rfl
  case known => exact fun _ => rfl
  case own =>
    intro datum draft next took
    obtain ⟨arguments, decoded, same⟩ := bind_ok.mp took
    cases same
    exact ⟨arguments, decoded, rfl⟩
  case other =>
    intro different datum draft next other took
    cases different <;>
    · obtain ⟨_, _, same⟩ := bind_ok.mp took
      cases same
      first | rfl | exact absurd rfl other

/-- Inputs without a list of arguments are not those of a tool. -/
theorem exists_read_error {entries : Table Value}
    (unlisted : ∀ written, entries.lookup "arguments" = some written → ∃ text, written = .text text) :
    ∃ reason, reader.read (Datum.ofValue (.map entries)) = .error reason := by
  cases read : reader.read (Datum.ofValue (.map entries)) with
  | error reason => exact ⟨reason, rfl⟩
  | ok inputs =>
    obtain ⟨draft, taken, finished⟩ := bind_ok.mp read
    have related := readsField_arguments.rel_of_takeEntries rfl taken
    obtain ⟨_, _, finished⟩ := bind_ok.mp finished
    obtain ⟨arguments, listed, _⟩ := bind_ok.mp finished
    generalize draft.arguments = found at related listed
    generalize wanted : entries.lookup "arguments" = written at related
    cases related with
    | none => cases listed
    | some decoded =>
      -- No text is decoded to a list.
      obtain ⟨text, rfl⟩ := unlisted _ wanted
      cases decoded

end ToolInputs

section Step

variable {ι α : Type} {name : String} {inputs : Datum → Decoded ι}
  {make : String → ι → List String → α} {written : Value}

/-- The values of the fields of a step, the copies as far as they are there. -/
def writtenStep (workflow : String) (written : Value) (postprocess : Option (List String)) :
    Table (Option Value) := [
  ("workflow", some (.text workflow)),
  ("inputs", some written),
  ("postprocess", postprocess.map .texts)]

/-- The values of the fields of a step in key order. -/
def orderedStep (workflow : String) (written : Value) (postprocess : Option (List String)) :
    Table (Option Value) := [
  ("inputs", some written),
  ("postprocess", postprocess.map .texts),
  ("workflow", some (.text workflow))]

/-- A step that is written is brought into key order by bringing its inputs there. -/
theorem inKeyOrder_writtenStep (workflow : String) (written : Value)
    (postprocess : Option (List String)) :
    (Value.map (Table.present (writtenStep workflow written postprocess))).inKeyOrder =
      .map (Table.present (orderedStep workflow written.inKeyOrder postprocess)) := by
  have distinct : (writtenStep workflow written postprocess).keys.Nodup := by
    change ["workflow", "inputs", "postprocess"].Nodup
    decide
  have copies : (postprocess.map Value.texts).map Value.inKeyOrder = postprocess.map Value.texts := by
    rw [Option.map_map]
    exact Option.map_congr fun names _ => Value.inKeyOrder_texts names
  have values : (writtenStep workflow written postprocess).map
      (Prod.map id (Option.map Value.inKeyOrder)) =
        writtenStep workflow written.inKeyOrder postprocess := by
    simp only [writtenStep, List.map_cons, List.map_nil, Prod.map_apply, id, Option.map_some,
      Value.inKeyOrder, copies]
  rw [Value.inKeyOrder_present distinct, values]
  simp only [Table.sorted, writtenStep, List.foldl_cons, List.foldl_nil, Table.place,
    String.reduceLT, String.reduceEq, ↓reduceIte, orderedStep]

variable {workflow : String} {postprocess : Option (List String)}

/-- A step is decoded if its inputs are. -/
theorem stepReader_ok {own : ι} (read : inputs (Datum.ofValue written) = .ok own) :
    (stepReader name inputs make).read
        (Datum.ofValue (.map (Table.present (orderedStep workflow written postprocess)))) =
      .ok (make workflow own (postprocess.getD [])) := by
  let reader := stepReader name inputs make
  let later (count : Nat) : List (Datum × Datum) :=
    Datum.ofEntries (Table.present ((orderedStep workflow written postprocess).drop count))
  let first : StepDraft ι := { inputs := some own }
  let copies := { first with postprocess }
  have taken : reader.takeEntries (later 0) {} = .ok { copies with workflow := some workflow } := calc
    reader.takeEntries (later 0) {}
      = reader.takeEntries (later 1) first :=
      reader.takeEntries_cons rfl rfl (bind_ok.mpr ⟨_, read, rfl⟩)
    _ = reader.takeEntries (later 2) { first with postprocess := postprocess.map id } :=
      reader.takeEntries_present_cons .postprocess id (fun postprocess => { first with postprocess })
        rfl rfl rfl fun own _ => bind_ok.mpr ⟨own, Datum.decodeList_texts own, rfl⟩
    _ = reader.takeEntries (later 2) copies := by rw [Option.map_id_fun, id]
    _ = .ok { copies with workflow := some workflow } := reader.takeEntries_cons rfl rfl rfl
  exact bind_ok.mpr ⟨_, taken, rfl⟩

/-- Without inputs of the kind there is no step of the kind. -/
theorem stepReader_error {reason : DecodeError}
    (read : inputs (Datum.ofValue written) = .error reason) :
    (stepReader name inputs make).read
        (Datum.ofValue (.map (Table.present (orderedStep workflow written postprocess)))) =
      .error reason := by
  have unread : ∀ rest, (stepReader name inputs make).takeEntries
      ((Datum.text "inputs", Datum.ofValue written) :: rest) {} = .error reason := by
    intro rest
    change (inputs (Datum.ofValue written) >>= _) >>= _ = _
    rw [read]
    rfl
  exact bind_error.mpr (.inl (unread _))

end Step

namespace ToolStep

/-- A tool step with its files in key order. -/
def inKeyOrder (step : ToolStep) : ToolStep := { step with inputs := step.inputs.inKeyOrder }

theorem inKeyOrder_encode (step : ToolStep) :
    step.encode.inKeyOrder = .map (Table.present
      (orderedStep step.workflow step.inputs.encode.inKeyOrder (some step.postprocess))) :=
  inKeyOrder_writtenStep step.workflow step.inputs.encode (some step.postprocess)

/-- A tool step is decoded as a tool step. -/
theorem read_inKeyOrder_encode (step : ToolStep) :
    reader.read (Datum.ofValue step.encode.inKeyOrder) = .ok step.inKeyOrder := by
  rw [inKeyOrder_encode]
  exact stepReader_ok step.inputs.read_inKeyOrder_encode

end ToolStep

namespace PipelineStep

/-- A pipeline step with its slots in key order. -/
def inKeyOrder (step : PipelineStep) : PipelineStep :=
  { step with inputs := step.inputs.inKeyOrder }

theorem inKeyOrder_encode (step : PipelineStep) :
    step.encode.inKeyOrder = .map (Table.present
      (orderedStep step.workflow step.inputs.encode.inKeyOrder
        (if step.postprocess.isEmpty then none else some step.postprocess))) := by
  rw [← inKeyOrder_writtenStep, encode, PipelineInputs.encodeNames]
  split <;> rfl

/-- A pipeline step is decoded as a pipeline step. -/
theorem read_inKeyOrder_encode {step : PipelineStep} (wellFormed : step.inputs.WellFormed) :
    reader.read (Datum.ofValue step.encode.inKeyOrder) = .ok step.inKeyOrder := by
  have copies : (if step.postprocess.isEmpty then none else some step.postprocess).getD [] =
      step.postprocess := by
    split
    next empty => exact (List.isEmpty_iff.mp empty).symm
    · rfl
  rw [inKeyOrder_encode]
  refine (stepReader_ok (PipelineInputs.decode_inKeyOrder_encode wellFormed)).trans ?_
  rw [copies]
  rfl

/-- Of the entries of a pipeline, only a slot can be called like the arguments of a tool, and it has
a single text. -/
theorem exists_read_error (step : PipelineStep) :
    ∃ reason, ToolStep.reader.read (Datum.ofValue step.encode.inKeyOrder) = .error reason := by
  have unlisted : ∀ written, (Table.sorted step.inputs.written).lookup "arguments" = some written →
      ∃ text, written = .text text := by
    intro written found
    rcases List.mem_append.mp (Table.mem_of_mem_sorted (Table.mem_of_lookup found)) with field | slot
    · have other : "arguments" ∉ PipelineInputs.fieldKeys := by decide
      have known := PipelineInputs.keys_writtenFields_sublist.subset (List.mem_map_of_mem field)
      exact absurd known other
    · obtain ⟨⟨_, reference⟩, _, same⟩ := List.mem_map.mp slot
      exact ⟨reference, (congrArg Prod.snd same).symm⟩
  obtain ⟨reason, unread⟩ := ToolInputs.exists_read_error unlisted
  rw [← PipelineInputs.inKeyOrder_encode] at unread
  rw [inKeyOrder_encode]
  exact ⟨reason, stepReader_error unread⟩

end PipelineStep

/-! ## Chains -/

namespace ChainStep

/-- The slots of a pipeline are told apart, and so are the files of a tool. -/
inductive WellFormed : ChainStep → Prop
  | tool {step : ToolStep} (distinct : step.inputs.files.keys.Nodup) : WellFormed (.tool step)
  | pipeline {step : PipelineStep} (inputs : step.inputs.WellFormed) : WellFormed (.pipeline step)

/-- The step with its files, or with its slots, in key order. -/
def inKeyOrder : ChainStep → ChainStep
  | .tool step => .tool step.inKeyOrder
  | .pipeline step => .pipeline step.inKeyOrder

/-- Each step is decoded as one of its own kind, although no tag tells the kinds apart. -/
theorem decode_inKeyOrder_encode {step : ChainStep} (wellFormed : step.WellFormed) :
    decode (Datum.ofValue step.encode.inKeyOrder) = .ok step.inKeyOrder := by
  rw [decode, Datum.resolve_ofValue]
  cases wellFormed with
  | @tool step =>
    dsimp only [encode]
    rw [step.read_inKeyOrder_encode]
    rfl
  | @pipeline step inputs =>
    obtain ⟨_, refused⟩ := step.exists_read_error
    dsimp only [encode]
    rw [refused, PipelineStep.read_inKeyOrder_encode inputs]
    rfl

/-- Steps of one kind are the same, but for the order of files or of slots. -/
inductive Reorders : ChainStep → ChainStep → Prop
  | tool (step : ToolStep) {files : Table FileBinding} (perm : files.Perm step.inputs.files) :
    Reorders (.tool { step with inputs := { step.inputs with files } }) (.tool step)
  | pipeline (step : PipelineStep) {context : Table String}
    (perm : context.Perm step.inputs.context) :
    Reorders (.pipeline { step with inputs := { step.inputs with context } }) (.pipeline step)

/-- Key order changes the order of files and of slots in a step, and nothing else. -/
theorem WellFormed.reorders {step : ChainStep} (wellFormed : step.WellFormed) :
    step.inKeyOrder.Reorders step := by
  cases wellFormed with
  | @tool step distinct => exact .tool step (Table.perm_sorted distinct)
  | @pipeline step inputs => exact .pipeline step (Table.perm_sorted inputs.distinct)

end ChainStep

namespace Chain

/-- All steps of a chain are well-formed. -/
def WellFormed (chain : Chain) : Prop := ∀ step ∈ chain.steps, step.WellFormed

/-- Chains have the same steps, but for the order of files and slots. -/
def Reorders (chain other : Chain) : Prop :=
  List.Forall₂ ChainStep.Reorders chain.steps other.steps

/-- A chain is decoded to its steps, each in key order. -/
theorem decode_inKeyOrder_encode {chain : Chain} (wellFormed : chain.WellFormed) :
    decode (Datum.ofValue chain.encode.inKeyOrder) = .ok ⟨chain.steps.map ChainStep.inKeyOrder⟩ := by
  have steps : (Datum.ofValue (.list (chain.steps.map fun step => step.encode.inKeyOrder))).decodeList
      ChainStep.decode = .ok (chain.steps.map ChainStep.inKeyOrder) :=
    Datum.decodeList_map_ok fun step listed => ChainStep.decode_inKeyOrder_encode (wellFormed step listed)
  have form : chain.encode.inKeyOrder =
      .map [("steps", .list (chain.steps.map fun step => step.encode.inKeyOrder))] := by
    rw [encode, Value.inKeyOrder, Value.inKeyOrderEntries, Value.inKeyOrder,
      Value.inKeyOrderItems_eq_map, List.map_map]
    rfl
  have taken : reader.takeEntries (Datum.ofEntries
      [("steps", .list (chain.steps.map fun step => step.encode.inKeyOrder))]) none =
        .ok (some (chain.steps.map ChainStep.inKeyOrder)) :=
    reader.takeEntries_cons rfl rfl (bind_ok.mpr ⟨_, steps, rfl⟩)
  rw [form]
  exact bind_ok.mpr ⟨_, taken, rfl⟩

/-- Key order changes the order of files and of slots in a chain, and nothing else. -/
theorem WellFormed.reorders {chain : Chain} (wellFormed : chain.WellFormed) :
    Reorders ⟨chain.steps.map ChainStep.inKeyOrder⟩ chain :=
  List.forall₂_map_left_iff.mpr (List.forall₂_same.mpr fun step listed => (wellFormed step listed).reorders)

end Chain

end WorkflowChain
