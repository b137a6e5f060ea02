import WorkflowChain.Proofs.Compile.Agreement
import WorkflowChain.Proofs.Knowledge.CompactKeys

/-! # Compiling with compact keys

A workflow names what it mentions by identifiers. Whether its store has these or only their keys
makes no difference, as everything is looked for in both ways: a workflow is compiled with the
resources of a document in the same way whether or not the document declares the namespace of its
keys.
-/

namespace WorkflowChain

/-- **Compiling with compact keys.** Without the namespace of its keys a document gives the same
compilations. -/
theorem compile_withoutNamespaces {document : Document} {vocabulary : Vocabulary}
    {store partner : Store} {count other : Nat} {root : Description}
    (written : document.WrittenWith vocabulary) (label : vocabulary.label ≠ typePrefix)
    (full : document.populate .empty = .ok (store, count))
    (short : document.withoutNamespaces.populate .empty = .ok (partner, other))
    (mentions : root.Mentions vocabulary.IsIdentifier) (settings : Settings)
    (compilation : Compilation) :
    compile store settings root = .ok compilation ↔
      compile partner settings root = .ok compilation := by
  have renames := Document.renames_of_populate written label full short
  have agrees := Store.agreesOn_of_renames renames
  exact (compile_alike (fun _ => trivial) agrees settings mentions).ok_iff

/-- The vocabulary of a small workflow. -/
def Vocabulary.sample : Vocabulary where
  label := "ss3"
  base := "http://example.org"
  plain := by decide

/-- Resources of a workflow with two tools, under compact keys. -/
def Document.sample : Document where
  namespaces := [("ss3", "http://example.org/ss3#")]
  data := [("ss3:geometry", .list [.map [("dataresource",
    .map [("downloadUrl", .text "part.stl")])]])]
  tools :=
    [("ss3:mesher", .map
        [("input", .map [("ss3:geometry", .list [.map [("function",
            .map [("location", .text "part.stl")])]])]),
          ("output", .map [("ss3:mesh", .list [.map [("dataresource",
            .map [("downloadUrl", .text "part.msh")])]])]),
          ("command", .text "mesh part.stl -o part.msh"), ("executor", .text "engine.shell")]),
      ("ss3:solver", .map
        [("input", .map [("ss3:mesh", .list [.map [("function",
            .map [("location", .text "part.msh")])]])]),
          ("output", .map [("ss3:field", .list [.map [("dataresource",
            .map [("downloadUrl", .text "field.vtk")])]])]),
          ("command", .text "solve part.msh"), ("executor", .text "engine.shell")])]
  datanodeTypes := [("ss3:mesh", "engine.file")]

/-- A workflow with two tools, by identifiers. -/
def Description.sample : Description :=
  let mesh := (branch "http://example.org/ss3#mesh").producedBy
    ((branch "http://example.org/ss3#mesher").consuming (leaf "http://example.org/ss3#geometry"))
  (branch "http://example.org/ss3#field").producedBy
    ((branch "http://example.org/ss3#solver").consuming mesh)

theorem Document.writtenWith_sample : sample.WrittenWith .sample := by
  have decodes : ∀ entry ∈ sample.tools, ∀ direction ∈ [Direction.input, .output],
      ∀ key ∈ (((Descriptor.decode (Datum.ofValue entry.2)).toOption.getD {}).bindings
        direction).keys, Vocabulary.sample.IsKey key := by
    decide
  constructor
  case namespaces => rfl
  case data => decide
  case tools => decide
  case datanodeTypes => decide
  case artifacts =>
    intro entry listed descriptor decoded direction
    have keys := decodes entry listed direction (by cases direction <;> decide)
    rwa [decoded] at keys

theorem Description.mentions_sample :
    Description.sample.Mentions Vocabulary.sample.IsIdentifier :=
  mentions_iff.mpr (by decide)

/-- With and without the namespace the sample document has four resources. -/
theorem compile_withoutNamespaces_sample :
    ∃ store partner compilation, Document.sample.populate .empty = .ok (store, 4) ∧
      Document.sample.withoutNamespaces.populate .empty = .ok (partner, 4) ∧
      compile store {} .sample = .ok compilation ∧
      compile partner {} .sample = .ok compilation := by
  obtain ⟨store, compilation, full, compiled⟩ : ∃ store compilation,
      Document.sample.populate .empty = .ok (store, 4) ∧
        compile store {} .sample = .ok compilation := ⟨_, _, rfl, rfl⟩
  obtain ⟨partner, short⟩ : ∃ partner,
      Document.sample.withoutNamespaces.populate .empty = .ok (partner, 4) := ⟨_, rfl⟩
  have label : Vocabulary.sample.label ≠ typePrefix := by decide
  exact ⟨store, partner, compilation, full, short, compiled,
    (compile_withoutNamespaces Document.writtenWith_sample label full short
      Description.mentions_sample {} compilation).mp compiled⟩

end WorkflowChain
