import WorkflowChain.Data.Datum
import WorkflowChain.Yaml.Tree

/-! # Reading documents

A document is a datum in which every alias is replaced by what its anchor stands for, wherever
somebody looks. Only there it matters how deeply collections are nested and how many aliases are
replaced; both are limited, so an anchor may even contain its own alias. The parts in which nobody
takes an interest are broken.
-/

namespace WorkflowChain.Yaml

/-- The nesting of collections that can be decoded. -/
def depthLimit : Nat := 128

/-- How many replacements of aliases a document allows for each of its parts. -/
def repetitionLimit : Nat := 100

namespace Tree

mutual

/-- The number of marks that a tree consists of: one for a single part, and two around each
collection. -/
def extent : Tree → Nat
  | .scalar _ _ => 1
  | .alias _ => 1
  | .list _ _ items => extentOfItems items + 2
  | .map _ _ entries => extentOfEntries entries + 2

/-- The number of marks of all items. -/
def extentOfItems : List Tree → Nat
  | [] => 0
  | item :: rest => extent item + extentOfItems rest

/-- The number of marks of all entries. -/
def extentOfEntries : List (Tree × Tree) → Nat
  | [] => 0
  | (key, value) :: rest => extent key + extent value + extentOfEntries rest

end

/-- Anchors with what they stand for, in the order in which they come up. -/
abbrev Anchors := List (Nat × Tree)

mutual

/-- The anchors of a tree. -/
def anchors (tree : Tree) : Anchors :=
  match tree with
  | .scalar anchor written => (anchor.map (·, .scalar anchor written)).toList
  | .alias _ => []
  | .list anchor tag items =>
    (anchor.map (·, .list anchor tag items)).toList ++ anchorsOfItems items
  | .map anchor tag entries =>
    (anchor.map (·, .map anchor tag entries)).toList ++ anchorsOfEntries entries

/-- The anchors of all items. -/
def anchorsOfItems : List Tree → Anchors
  | [] => []
  | item :: rest => anchors item ++ anchorsOfItems rest

/-- The anchors of all entries. -/
def anchorsOfEntries : List (Tree × Tree) → Anchors
  | [] => []
  | (key, value) :: rest => anchors key ++ anchors value ++ anchorsOfEntries rest

end

/-- A collection with its tag. Only a local kind says more than its shape. -/
def withTag (tag : Option Tag) (collection : Datum) : Datum :=
  if tag = some .own then .tagged collection else collection

/-- A computation that replaces aliases, as many as the state allows. -/
abbrev Expansion := StateT Nat Option

/-- The tree that an alias stands for; other trees stand for themselves. -/
def follow (anchors : Anchors) : Tree → Expansion Tree
  | .alias number => do
    match ← get with
    | 0 => failure
    | left + 1 =>
      set left
      anchors.lookup number
  | tree => return tree

/-- What is of interest in a part, where `outer` is the interest in the nearest map of named keys
around it. -/
def effective (outer : Interest) : Interest → Interest
  | .again => outer
  | interest => interest

/-- The datum of a tree as far as it is of interest, nested at most as deeply as `depth` says. -/
def expand (anchors : Anchors) : Nat → Interest → Interest → Tree → Expansion Datum
  | depth, outer, interest, tree => do
    let interest := effective outer interest
    if interest matches .nothing then return .broken
    match ← follow anchors tree with
    | .scalar _ written => return .scalar written
    | .alias _ => failure
    | .list _ tag items =>
      match depth with
      | 0 => failure
      | depth + 1 =>
        let items ← match interest with
          | .all => items.mapM (expand anchors depth outer .all)
          | .items each => items.mapM (expand anchors depth outer each)
          | _ => pure []
        return withTag tag (.list false items)
    | .map _ tag entries =>
      match depth with
      | 0 => failure
      | depth + 1 =>
        let entries ← match interest with
          | .all => entries.mapM fun (key, value) => do
            let key ← expand anchors depth outer .all key
            return (key, ← expand anchors depth outer .all value)
          | .values each => entries.mapM fun (key, value) => do
            let key ← expand anchors depth outer .itself key
            return (key, ← expand anchors depth outer each value)
          | .fields each => entries.mapM fun (key, value) => do
            let key ← expand anchors depth outer .itself key
            let part := (key.text?.map each).getD .nothing
            return (key, ← expand anchors depth interest part value)
          | _ => pure []
        return withTag tag (.map entries)

/-- The datum of a document as far as it is of interest. Of several anchors with one number, the
last counts. -/
def datum? (interest : Interest) (tree : Tree) : Option Datum :=
  (expand tree.anchors.reverse depthLimit interest interest tree).run'
    (repetitionLimit * tree.extent)

end Tree

/-- The datum that a text stands for as far as it is of interest, if the text is a document. A text
without a document is an empty datum. -/
def read? (interest : Interest) (text : String) : Option Datum := do
  match ← Tree.read? text with
  | none => return .void
  | some tree => tree.datum? interest

end WorkflowChain.Yaml
