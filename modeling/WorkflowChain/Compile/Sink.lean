import WorkflowChain.Compile.Compilation
import WorkflowChain.Yaml.Printer

/-! # Written documents

What is compiled is written as documents by name: the fragments in order, and then the chain. A name
that is written twice keeps its place and has the last text.
-/

namespace WorkflowChain

/-- A fragment as a document text. -/
def Fragment.render (fragment : Fragment) : String := Yaml.render fragment.encode

/-- A chain as a document text. -/
def Chain.render (chain : Chain) : String := Yaml.render chain.encode

/-- A descriptor as a document text. -/
def Descriptor.render (descriptor : Descriptor) : String := Yaml.render descriptor.encode

/-- Documents by name, in the order of writing. -/
structure Sink where
  documents : Table String := []
  deriving DecidableEq, Repr

namespace Sink

/-- The sink without documents. -/
def empty : Sink := {}

/-- The names of the documents, in order. -/
def names (sink : Sink) : List String := sink.documents.keys

/-- Whether nothing was written. -/
def isEmpty (sink : Sink) : Bool := sink.documents.isEmpty

/-- The text of a document. -/
def get? (sink : Sink) (name : String) : Option String := sink.documents.lookup name

/-- The sink after a text was written. -/
def write (sink : Sink) (name text : String) : Sink := ⟨sink.documents.put name text⟩

/-- The sink after a fragment was written. -/
def writeFragment (sink : Sink) (name : String) (fragment : Fragment) : Sink :=
  sink.write name fragment.render

/-- The sink after a chain was written. -/
def writeChain (sink : Sink) (name : String) (chain : Chain) : Sink := sink.write name chain.render

end Sink

/-- The names and texts of the documents of a compilation, in the order in which they are written.
-/
def Compilation.documents (compilation : Compilation) : List (String × String) :=
  (compilation.fragments.map fun named => (named.fileName, named.fragment.render))
    ++ [(compilation.chainFileName, compilation.chain.render)]

/-- The sink after the documents of a compilation were written. -/
def Compilation.persist (compilation : Compilation) (sink : Sink) : Sink :=
  let fragments := compilation.fragments.foldl
    (fun sink named => sink.writeFragment named.fileName named.fragment) sink
  fragments.writeChain compilation.chainFileName compilation.chain

end WorkflowChain
