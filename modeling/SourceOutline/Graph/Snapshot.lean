import SourceOutline.Graph.Node
import SourceOutline.Text.Sorted

set_option autoImplicit false

/-! # Snapshots

A snapshot is the graph that one scan has found: its nodes in the order of the visit, and the edges
between them. Two snapshots differ by the ids that only one of them has. -/

namespace SourceOutline

/-- The nodes and edges that a scan has found. -/
structure Snapshot where
  nodes : List Node := []
  edges : List Edge := []
deriving Repr, DecidableEq

/-- The ids that came and the ids that went between two snapshots. -/
structure SnapshotDiff where
  added : List String
  removed : List String
deriving Repr, DecidableEq

/-- Whether anything came or went. -/
def SnapshotDiff.changed (diff : SnapshotDiff) : Bool :=
  !diff.added.isEmpty || !diff.removed.isEmpty

/-- The wording for an id that no node of a snapshot has. -/
def nodeNotFoundMessage (id : String) : String :=
  "Node not found: " ++ id

namespace Snapshot

/-- The first node. -/
def root? (snapshot : Snapshot) : Option Node :=
  snapshot.nodes.head?

/-- The ids of all nodes, in order. -/
def ids (snapshot : Snapshot) : List String :=
  snapshot.nodes.map (·.id)

/-- The node with the given id; of several the last one. -/
def get? (snapshot : Snapshot) (id : String) : Option Node :=
  snapshot.nodes.reverse.find? (·.id == id)

/-- The nodes whose parent has the given id. -/
def childrenOf (snapshot : Snapshot) (id : String) : List Node :=
  snapshot.nodes.filter (·.parentId == some id)

/-- The ids that `snapshot` has and `other` lacks, in code-point order. -/
def idsMissingFrom (snapshot other : Snapshot) : List String :=
  sortedDistinct (snapshot.ids.filter fun id => !other.ids.contains id)

/-- What has changed since `previous`. -/
def diff (snapshot previous : Snapshot) : SnapshotDiff where
  added := snapshot.idsMissingFrom previous
  removed := previous.idsMissingFrom snapshot

end Snapshot

end SourceOutline
