import WorkflowChain.Workflow.Description
import WorkflowChain.Workflow.Node

/-! # The workflow graph

The graph has one node for every description, numbered so that a description comes after all
descriptions below it. A description gives its number to the children that produce it, as their
output, and takes the numbers of the others as its inputs. Every dependency therefore leads from
a node to one with a greater number, which `Graph.build` checks.
-/

namespace WorkflowChain

/-- Why a description has no graph. -/
inductive GraphError where
  | missingIdentifier (depth : Nat)
  | tooDeep (limit : Nat)
  | cyclic
  deriving DecidableEq, Repr

/-- The text of a graph error. -/
def GraphError.message : GraphError → String
  | .missingIdentifier depth =>
    "Missing identifier for description at depth " ++ toString depth
  | .tooDeep limit =>
    "Description nesting exceeds the ceiling of " ++ toString limit ++ " levels"
  | .cyclic => "Cyclic dependency detected"

/-- The nodes of a description and of all descriptions below it. -/
structure Branch where
  /-- The nodes of the descriptions below, in order. -/
  below : List Node
  /-- The node of the description itself. -/
  top : Node
  deriving Repr

namespace Branch

/-- All nodes of a branch, in order. -/
def nodes (branch : Branch) : List Node := branch.below ++ [branch.top]

/-- The branch whose top node produces the node with the given number. -/
def producing (branch : Branch) (id : Nat) : Branch :=
  { branch with top := { branch.top with outputs := branch.top.outputs ++ [id] } }

/-- The branch whose top node is consumed by a tool; the first consumer counts. -/
def consumedBy (branch : Branch) (tool : String) : Branch :=
  if branch.top.kind.input.isEmpty then
    { branch with top := { branch.top with kind := { branch.top.kind with input := tool } } }
  else branch

/-- The branches below a description, each with whether it produces the description. -/
abbrev Children := List (Bool × Branch)

/-- The top nodes that produce the description, or those that it consumes. -/
def tops (productions : Bool) (children : Children) : List Node :=
  (children.filter (·.1 = productions)).map (·.2.top)

/-- The branch of a description with the given number, from the branches below it. -/
def join (id : Nat) (identifier : String) (depth : Nat) (children : Children) : Branch where
  below := children.flatMap fun (produces, child) =>
    (if produces then child.producing id else child.consumedBy identifier).nodes
  top :=
    { id, identifier, depth
      kind := { output := ((tops true children).getLast?.map Node.identifier).getD "" }
      inputs := (tops false children).map Node.id
      outputs := [] }

mutual

/-- The branch of a description at a nesting level, whose first node gets the number `next`. -/
def build (limit level next : Nat) : Description → Except GraphError Branch
  | ⟨identifier, depth, _, children⟩ =>
    if level > limit then .error (.tooDeep limit)
    else match identifier.filter (!·.isEmpty) with
      | none => .error (.missingIdentifier depth)
      | some iri => buildChildren limit level next iri depth children

/-- The branch of a description whose identifier was checked. -/
def buildChildren (limit level next : Nat) (identifier : String) (depth : Nat) :
    Option (List Description) → Except GraphError Branch
  | none =>
    .ok { below := [],
          top := { id := next, identifier, depth, kind := .dataset, inputs := [], outputs := [] } }
  | some children => do
    let (next, children) ← buildAll limit (level + 1) next children
    return join next identifier depth children

/-- The branches of all descriptions of a list, and the number after their nodes. -/
def buildAll (limit level next : Nat) :
    List Description → Except GraphError (Nat × Children)
  | [] => .ok (next, [])
  | description :: rest => do
    let branch ← build limit level next description
    let (next, branches) ← buildAll limit level (branch.top.id + 1) rest
    return (next, (description.isProduction, branch) :: branches)

end

end Branch

/-- A workflow graph: its nodes in the order of their numbers, the root last. -/
structure Graph where
  nodes : List Node
  root : Nat
  deriving Repr

namespace Graph

/-- The node with a number. -/
def node? (graph : Graph) (id : Nat) : Option Node := graph.nodes[id]?

/-- The nodes that produce other nodes, in order. -/
def steps (graph : Graph) : List Node := graph.nodes.filter Node.isStep

/-- The nodes that a node consumes. -/
def inputsOf (graph : Graph) (node : Node) : List Node := node.inputs.filterMap graph.node?

/-- The nodes that a node produces. -/
def outputsOf (graph : Graph) (node : Node) : List Node := node.outputs.filterMap graph.node?

/-- The dependencies as pairs, each from the node that must come first. -/
def edges (graph : Graph) : List (Nat × Nat) :=
  graph.nodes.flatMap fun node =>
    node.inputs.map (·, node.id) ++ node.outputs.map (node.id, ·)

/-- Whether every dependency leads to a greater number. -/
def isOrdered (graph : Graph) : Bool := graph.edges.all fun (first, second) => first < second

/-- The graph of a description that is nested at most `limit` levels deep.

There is no topological sort of the graph before its order is checked. Such a sort fails only for a
cycle, and dependencies that all lead to greater numbers have none (`Graph.acyclic_of_isOrdered`),
so whatever the sort would refuse is refused by `isOrdered` with the same error. Of a graph that is
built, `Graph.IsTree.acyclic` says so again. -/
def build (description : Description) (limit : Nat) : Except GraphError Graph := do
  let branch ← Branch.build limit 0 0 description
  let graph : Graph := ⟨branch.nodes, branch.top.id⟩
  if graph.isOrdered then return graph else throw .cyclic

end Graph

/-! ## Failures

That there is no graph is the first of the reasons why a workflow cannot be compiled. The others
come up when the graph is there.
-/

/-- Why a workflow, a fragment or a resource cannot be compiled. A lookup in the store is no reason:
the store is in memory and always answers. -/
inductive Failure where
  /-- The description has no graph. -/
  | graph (error : GraphError)
  /-- Something that is needed is not in the store; the context says what for. -/
  | notFound (identifier context : String)
  /-- Two stages of a fragment have one name. -/
  | conflict (name : String)
  /-- There is no such backend for final outputs. -/
  | unsupported (backend : String)
  /-- An entry of the store is not what is needed. -/
  | malformed (identifier reason : String)
  deriving DecidableEq, Repr

namespace Failure

/-- The text of a failure. -/
def message : Failure → String
  | graph error => "Graph error: " ++ error.message
  | notFound identifier context => "Not found: '" ++ identifier ++ "' (" ++ context ++ ")"
  | conflict name => "Conflict: stage name '" ++ name ++ "' is generated more than once"
  | unsupported backend => "Unsupported target store backend: " ++ backend
  | malformed identifier reason => "Malformed resource '" ++ identifier ++ "': " ++ reason

/-- The texts of the causes of a failure, the nearest first. -/
def causes : Failure → List String
  | graph error => [error.message]
  | _ => []

end Failure

end WorkflowChain
