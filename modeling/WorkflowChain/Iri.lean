import WorkflowChain.Text.Split

/-! # Forms of an identifier

An identifier is a full IRI such as `http://x/ss3#Tool`, or a compact key such as
`ss3:Tool`. The store is searched for both forms, and a resource document may use
either for its keys.
-/

namespace WorkflowChain.Iri

open Text

/-- The local name: what follows the first number sign, else the last path segment. -/
def suffix (iri : String) : String :=
  match cutFirst? '#' iri with
  | some (_, fragment) => fragment
  | none => afterLast '/' iri

/-- The compact key: the last path segment with each number sign written as a colon. -/
def compact (iri : String) : String :=
  replaceChar '#' ':' (afterLast '/' iri)

/-- The full IRI for a key whose prefix stands in the table; the first entry of a prefix
counts. A key with an unknown prefix, or one that is a full IRI already, stays as it is. -/
def expand (namespaces : List (String × String)) (key : String) : String :=
  if occursIn "://".toList key.toList then key
  else match cutFirst? ':' key with
    | none => key
    | some (label, name) =>
      match namespaces.lookup label with
      | some space => space ++ name
      | none => key

end WorkflowChain.Iri
