import SourceOutline.Graph.Snapshot

set_option autoImplicit false

/-! # Building a graph

A builder takes nodes one at a time and refuses those that would spoil the tree: an id that is
taken, a second root, a parent that has not come yet, or a range that ends before it starts. With a
node it takes the id of the node and the edge from its parent, so it always has the ids and the
edges of its nodes. -/

namespace SourceOutline

/-- Why a node is refused. -/
inductive BuildFault where
  | duplicateId (id : String)
  | secondRoot (id : String)
  | unknownParent (parent id : String)
  | reversedRange (id : String) (startLine endLine : Int)
deriving Repr, DecidableEq

/-- The wording of a refusal. -/
def BuildFault.message : BuildFault → String
  | duplicateId id => "Duplicate node id: " ++ id
  | secondRoot id => "Second root node: " ++ id
  | unknownParent parent id => "Parent " ++ parent ++ " of " ++ id ++ " has not been emitted"
  | reversedRange id startLine endLine =>
    id ++ " ends (" ++ toString endLine ++ ") before it starts (" ++ toString startLine ++ ")"

/-- No nodes have no edges. -/
theorem parentEdges_nil : ([] : List Edge) = [].filterMap Node.parentEdge? := rfl

/-- No nodes have no ids. -/
theorem ids_nil : ([] : List String) = [].map Node.id := rfl

/-- The nodes taken so far, their ids and edges, and whether the place of the root has been
    claimed. -/
structure GraphBuilder where
  nodes : List Node := []
  edges : List Edge := []
  ids : List String := []
  rooted : Bool := false
  edges_eq : edges = nodes.filterMap Node.parentEdge? := by exact parentEdges_nil
  ids_eq : ids = nodes.map Node.id := by exact ids_nil
deriving Repr, DecidableEq

namespace GraphBuilder

/-- Whether a node with the given id has been taken. -/
def has (builder : GraphBuilder) (id : String) : Bool :=
  builder.ids.contains id

/-- Why a node's id and parent do not fit the nodes taken so far, if so. -/
def placeFault? (builder : GraphBuilder) (node : Node) : Option BuildFault :=
  if builder.has node.id then some (.duplicateId node.id)
  else match node.parentId with
    | none => if builder.rooted then some (.secondRoot node.id) else none
    | some parent => if builder.has parent then none else some (.unknownParent parent node.id)

/-- Why a node's range is refused, if so. -/
def rangeFault? (node : Node) : Option BuildFault :=
  match node.endLine with
  | some last =>
    if last < node.startLine then some (.reversedRange node.id node.startLine last) else none
  | none => none

/-- Claim the place of the root for a node, if it has no parent. -/
def claim (builder : GraphBuilder) (node : Node) : GraphBuilder :=
  { builder with rooted := builder.rooted || node.parentId.isNone }

/-- Put a node behind the others, with its id and its edge. -/
def push (builder : GraphBuilder) (node : Node) : GraphBuilder where
  nodes := builder.nodes ++ [node]
  edges := builder.edges ++ node.parentEdge?.toList
  ids := builder.ids ++ [node.id]
  rooted := builder.rooted
  edges_eq := by
    rw [builder.edges_eq, List.filterMap_append]
    cases h : node.parentEdge? <;> simp [h]
  ids_eq := by rw [builder.ids_eq, List.map_append, List.map_singleton]

/-- Take a node, or refuse it and tell why. A node without a parent that fits claims the place of
    the root before its range is looked at, so it keeps the place even if the range is refused. -/
def add (builder : GraphBuilder) (node : Node) : GraphBuilder × Option BuildFault :=
  match builder.placeFault? node with
  | some fault => (builder, some fault)
  | none =>
    match rangeFault? node with
    | some fault => (builder.claim node, some fault)
    | none => ((builder.claim node).push node, none)

/-- Take nodes in order up to the first that is refused. -/
def extend (builder : GraphBuilder) : List Node → GraphBuilder × Option BuildFault
  | [] => (builder, none)
  | node :: rest =>
    match builder.add node with
    | (next, none) => next.extend rest
    | (next, some fault) => (next, some fault)

/-- How many nodes have been taken. -/
def size (builder : GraphBuilder) : Nat :=
  builder.nodes.length

/-- The graph of the nodes taken so far. -/
def build (builder : GraphBuilder) : Snapshot where
  nodes := builder.nodes
  edges := builder.edges

end GraphBuilder

end SourceOutline
