import WorkflowChain.Knowledge.Document
import WorkflowChain.Proofs.Success

/-! # Populating a store

A store is populated in two phases. The first decodes the whole document and knows nothing of the
store; the second writes one resource after the other, and none of its writes can fail. As
everything that can fail comes before the first write, a failure leaves the store as it was.
-/

namespace WorkflowChain

namespace Store.Change

variable {ε α β : Type}

/-- A change that never fails, with its effect on the store. -/
def Performs (change : Change ε Unit) (effect : Store → Store) : Prop :=
  ∀ store, change.applyTo store = (.ok (), effect store)

theorem applyTo_bind_ok {change : Change ε α} {next : α → Change ε β} {store after : Store}
    {value : α} (ran : change.applyTo store = (.ok value, after)) :
    (change >>= next).applyTo store = (next value).applyTo after :=
  run_bind_ok ran

theorem applyTo_bind_error {change : Change ε α} {next : α → Change ε β} {store after : Store}
    {error : ε} (failed : change.applyTo store = (.error error, after)) :
    (change >>= next).applyTo store = (.error error, after) :=
  run_bind_error failed

/-- What was decoded before is the outcome, and nothing is written. -/
theorem applyTo_liftExcept (outcome : Except ε α) (store : Store) :
    (liftExcept outcome : Change ε α).applyTo store = (outcome, store) := by
  cases outcome <;> rfl

theorem performs_modify (effect : Store → Store) :
    (modify effect : Change ε Unit).Performs effect :=
  fun _ => rfl

namespace Performs

variable {first second : Change ε Unit} {effect later : Store → Store}

/-- Changes that always succeed do so one after the other. -/
theorem bind (performs : first.Performs effect) (last : second.Performs later) :
    (first >>= fun _ => second).Performs fun store => later (effect store) := by
  intro store
  rw [applyTo_bind_ok (performs store), last]

theorem forM {items : List α} {act : α → Change ε Unit} {effect : Store → α → Store}
    (each : ∀ item ∈ items, (act item).Performs (effect · item)) :
    (items.forM act).Performs fun store => items.foldl effect store := by
  induction items with
  | nil => exact fun _ => rfl
  | cons item rest ih =>
    have ⟨own, others⟩ := List.forall_mem_cons.mp each
    exact own.bind (ih others)

end Performs

end Store.Change

namespace Document

variable (document : Document)

/-- The store with the types and the entry of a resource. -/
def withResource (store : Store) (resource : Resource) : Store :=
  (resource.types.foldl (fun store type => store.addType resource.identifier (document.expand type))
    store).insert resource.identifier resource.entry

theorem entries_withResource (store : Store) (resource : Resource) :
    (document.withResource store resource).entries =
      store.entries.put resource.identifier resource.entry := by
  have typed : ∀ (types : List String) (store : Store),
      (types.foldl (fun store type => store.addType resource.identifier (document.expand type))
        store).entries = store.entries := by
    intro types
    induction types with
    | nil => exact fun _ => rfl
    | cons type rest ih => exact fun store => ih _
  rw [withResource, Store.insert, typed]

theorem performs_putResource (resource : Resource) :
    (document.putResource resource).Performs (document.withResource · resource) := by
  have types : (resource.types.forM fun type => (modify
      (·.addType resource.identifier (document.expand type)) :
        Store.Change DocumentError Unit)).Performs fun store => resource.types.foldl
      (fun store type => store.addType resource.identifier (document.expand type)) store :=
    .forM fun _ _ => Store.Change.performs_modify _
  exact types.bind (Store.Change.performs_modify _)

/-- **What populating does.** Either the document cannot be decoded and nothing is written, or all
its resources are. -/
theorem applyTo_populating (store : Store) :
    document.populating.applyTo store =
      match document.resources with
      | .error error => (.error error, store)
      | .ok resources => (.ok resources.length, resources.foldl document.withResource store) := by
  have decoded := Store.Change.applyTo_liftExcept document.resources store
  unfold populating
  cases outcome : document.resources with
  | error error =>
    rw [outcome] at decoded
    exact Store.Change.applyTo_bind_error decoded
  | ok resources =>
    rw [outcome] at decoded
    have written : (resources.forM document.putResource).Performs fun store =>
        resources.foldl document.withResource store :=
      .forM fun resource _ => document.performs_putResource resource
    rw [Store.Change.applyTo_bind_ok decoded, Store.Change.applyTo_bind_ok (written store)]
    rfl

/-- Populating succeeds only if all resources are decoded, and then it stores all of them. -/
theorem populate_ok {document : Document} {store after : Store} {count : Nat}
    (populated : document.populate store = .ok (after, count)) :
    ∃ resources, document.resources = .ok resources ∧
      after = resources.foldl document.withResource store ∧ count = resources.length := by
  rw [populate, applyTo_populating] at populated
  cases decoded : document.resources with
  | error reason =>
    rw [decoded] at populated
    cases populated
  | ok resources =>
    rw [decoded] at populated
    cases populated
    exact ⟨resources, rfl, rfl, rfl⟩

/-- **A failure leaves the store as it was.** It comes from the document alone. -/
theorem unchanged_of_error {document : Document} {store after : Store} {error : DocumentError}
    (failed : document.populating.applyTo store = (.error error, after)) :
    after = store ∧ document.resources = .error error ∧ document.populate store = .error error := by
  have outcome : document.populate store = .error error := by
    rw [populate, failed]
    rfl
  rw [applyTo_populating] at failed
  cases decoded : document.resources with
  | error reason =>
    rw [decoded] at failed
    cases failed
    exact ⟨rfl, rfl, outcome⟩
  | ok resources =>
    rw [decoded] at failed
    cases failed

/-- A document whose last section gives a native type to a data resource of its first. -/
def typedData : Document where
  data := [("http://example.org/raw",
    .list [.map [("dataresource", .map [("downloadUrl", .text "raw.csv")])]])]
  tools := [("http://example.org/tool", .map [("command", .text "tool.sh")])]
  datanodeTypes := [("http://example.org/raw", "file")]

/-- The resources that come before the fault are not stored. -/
theorem unchanged_of_typedData :
    ∃ store after, store.size = 1 ∧ store.typesOf "old" = [sinkType] ∧
      typedData.populating.applyTo store =
        (.error (.invalidResource "http://example.org/raw" .typedData), after) ∧
      after = store := by
  let store := (Store.empty.insert "old" (.dataset [])).addType "old" sinkType
  obtain ⟨after, failed⟩ : ∃ after, typedData.populating.applyTo store =
      (.error (.invalidResource "http://example.org/raw" .typedData), after) := ⟨_, rfl⟩
  exact ⟨store, after, rfl, rfl, failed, (unchanged_of_error failed).1⟩

end Document

end WorkflowChain
