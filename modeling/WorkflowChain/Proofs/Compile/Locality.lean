import WorkflowChain.Proofs.Compile.Agreement
import WorkflowChain.Proofs.Compile.ChainLayout

/-! # Compiling is local in the store

A store is only asked for what the description mentions, under the identifier itself and under its
compact form. Stores with the same entries under these keys give the same result, be it a
compilation or a failure. Entries under other keys have no part in it, and neither have the types
that are recorded.
-/

namespace WorkflowChain

/-- Two stores have the same entries for an identifier, under itself and under its compact form. -/
structure Store.SameEntries (store other : Store) (identifier : String) : Prop where
  full : store.lookup? identifier = other.lookup? identifier
  compact : store.lookup? (Iri.compact identifier) = other.lookup? (Iri.compact identifier)

/-- Runs that end alike up to equality are equal. -/
theorem RunsAlike.eq {ε α : Type} {run other : Except ε α} (alike : RunsAlike Eq Eq run other) :
    run = other := by
  cases alike with
  | ok same => rw [same]
  | error same => rw [same]

theorem Descriptor.AgreesOn.refl (known : String → Prop) (descriptor : Descriptor) :
    descriptor.AgreesOn Eq known descriptor where
  templates _ _ _ := rfl
  outputs _ := .refl (fun _ => rfl) _
  files := rfl
  command := rfl
  executor := rfl
  datanodeType := rfl

theorem Entry.related_refl (known : String → Prop) (entry : Entry) :
    Entry.Related (Descriptor.AgreesOn Eq known) entry entry := by
  cases entry with
  | dataset templates => exact .dataset templates
  | tool descriptor => exact .tool (.refl known descriptor)

namespace Store

variable {store other : Store}

theorem SameEntries.resolve_eq {identifier : String} (same : store.SameEntries other identifier)
    (context : String) : store.resolve identifier context = other.resolve identifier context := by
  unfold resolve lookupCompact?
  rw [same.full, same.compact]

/-- Stores agree on the identifiers for which they have the same entries. -/
theorem agreesOn_sameEntries (store other : Store) :
    store.AgreesOn Eq (store.SameEntries other) other := by
  intro identifier same context
  rw [same.resolve_eq context]
  cases other.resolve identifier context with
  | error reason => exact .error rfl
  | ok entry => exact .ok (Entry.related_refl _ entry)

/-- An entry under another key changes nothing for an identifier. -/
theorem SameEntries.insert {identifier key : String} (same : store.SameEntries other identifier)
    (full : identifier ≠ key) (compact : Iri.compact identifier ≠ key) (entry : Entry) :
    (store.insert key entry).SameEntries other identifier := by
  constructor
  · rw [← same.full]
    simp only [lookup?, Store.insert, Table.lookup_put, full, ↓reduceIte]
  · rw [← same.compact]
    simp only [lookup?, Store.insert, Table.lookup_put, compact, ↓reduceIte]

/-- Recorded types are no entries. -/
theorem SameEntries.addType {identifier : String} (same : store.SameEntries other identifier)
    (key type : String) : (store.addType key type).SameEntries other identifier :=
  ⟨same.full, same.compact⟩

end Store

/-- **Compiling is local in the store.** Stores with the same entries for all identifiers of a
description compile it with the same result; an entry under another key, or a type under any key,
may be added to either. -/
theorem compile_eq_of_sameEntries {store other : Store} {root : Description}
    (same : root.Mentions (store.SameEntries other)) (settings : Settings) :
    compile store settings root = compile other settings root ∧
      ∀ key entry, (root.Mentions fun identifier => identifier ≠ key ∧
          Iri.compact identifier ≠ key) →
        ∀ tagged type, compile ((store.insert key entry).addType tagged type) settings root =
          compile other settings root := by
  have equal : ∀ store, root.Mentions (store.SameEntries other) →
      compile store settings root = compile other settings root := fun store mentions =>
    (compile_alike (fun _ => rfl) (store.agreesOn_sameEntries other) settings mentions).eq
  refine ⟨equal store same, ?_⟩
  intro key entry foreign tagged type
  apply equal
  intro position description found identifier named
  have ⟨full, compact⟩ := foreign position description found identifier named
  have known := same position description found identifier named
  exact (known.insert full compact entry).addType tagged type

/-- What there is to know for the workflow with two tools, in another order and with a type. -/
def Store.twoToolsReversed : Store where
  entries := Store.twoTools.entries.reverse
  types := [("mesh", ["engine.file"])]

theorem Description.mentions_twoTools {known : String → Prop}
    (each : ∀ identifier ∈ ["geometry", "mesher", "mesh", "solver", "field"], known identifier) :
    twoTools.Mentions known := by
  have names : ∀ position ∈ twoTools.positions,
      ∀ identifier ∈ (twoTools.at? position).bind Description.identifier,
        identifier ∈ ["geometry", "mesher", "mesh", "solver", "field"] := by
    decide
  exact mentions_iff.mpr fun position member identifier named =>
    each identifier (names position member identifier named)

/-- The order of the entries, a further resource and a type make no difference to the workflow with
two tools. -/
theorem compile_eq_of_sameEntries_twoTools :
    ∃ compilation, compile .twoTools {} .twoTools = .ok compilation ∧
      compile .twoToolsReversed {} .twoTools = .ok compilation ∧
      compile ((Store.twoToolsReversed.insert "viewer" (.tool {})).addType "mesh" "engine.part") {}
        .twoTools = .ok compilation := by
  obtain ⟨compilation, compiled⟩ := Compilation.compile_twoTools
  have same : Description.twoTools.Mentions
      (Store.twoToolsReversed.SameEntries Store.twoTools) := by
    apply Description.mentions_twoTools
    simp only [List.forall_mem_cons]
    exact ⟨⟨rfl, rfl⟩, ⟨rfl, rfl⟩, ⟨rfl, rfl⟩, ⟨rfl, rfl⟩, ⟨rfl, rfl⟩, nofun⟩
  have foreign : Description.twoTools.Mentions fun identifier =>
      identifier ≠ "viewer" ∧ Iri.compact identifier ≠ "viewer" :=
    Description.mentions_twoTools (by decide)
  obtain ⟨equal, extended⟩ := compile_eq_of_sameEntries same {}
  exact ⟨compilation, compiled, equal.trans compiled,
    (extended "viewer" (.tool {}) foreign "mesh" "engine.part").trans compiled⟩

end WorkflowChain
