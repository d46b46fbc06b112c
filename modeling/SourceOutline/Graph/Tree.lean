import SourceOutline.Graph.Snapshot
import SourceOutline.Text.Columns
import SourceOutline.Text.Quoted

set_option autoImplicit false

/-! # Graphs as drawn trees

A graph is drawn as a tree, one row a node, with guides that lead from a parent to its children. A
node hangs under the latest earlier node that has its parent's id. Should a later node take the
id of the root, the drawing starts from that node. -/

namespace SourceOutline

/-! ## Drawn trees -/

/-- A tree whose nodes carry the lines of their labels. -/
inductive LabelTree where
  | node (label : List (List Char)) (children : List LabelTree)

/-- The lines of a label, the first after one guide and the others after another. -/
def guideLabel (first other : List Char) : List (List Char) → List (List Char)
  | [] => []
  | line :: rest => (first ++ line) :: rest.map (other ++ ·)

mutual

/-- The rows of a tree whose label lines follow the given guides. -/
def LabelTree.rows (first other : List Char) : LabelTree → List (List Char)
  | .node label children => guideLabel first other label ++ LabelTree.rowsBelow other children

/-- The rows of the children of a node, each row after the guide of the node. -/
def LabelTree.rowsBelow (guide : List Char) : List LabelTree → List (List Char)
  | [] => []
  | [child] => child.rows (guide ++ "└── ".toList) (guide ++ "    ".toList)
  | child :: rest =>
    child.rows (guide ++ "├── ".toList) (guide ++ "│   ".toList) ++ LabelTree.rowsBelow guide rest

end

/-- A tree as text, every row ended by a line feed. -/
def LabelTree.render (tree : LabelTree) : String :=
  String.ofList ((tree.rows [] []).flatMap (· ++ ['\n']))

/-! ## Labels -/

/-- The text that a node shows: its label, and for a definition also its kind and range. -/
def Node.treeText (node : Node) : String :=
  if node.isDefinition then
    let last := match node.endLine with
      | some last => toString last
      | none => "None"
    node.label ++ "  " ++ node.kind ++ " " ++ toString node.startLine ++ "-" ++ last
  else node.label

/-- The lines of the text that a node shows. -/
def Node.treeLabel (node : Node) : List (List Char) :=
  (piecesBetween '\n' (node.treeText.toList.filter fun c => !isDroppedControl c)).map expandTabs

/-! ## From graph to tree -/

/-- A node hangs under no earlier one. -/
structure OrphanFault where
  parentId : Option String
deriving Repr, DecidableEq

/-- The wording names the missing parent id in quotes, or says that there is none. -/
def OrphanFault.message (fault : OrphanFault) : String :=
  match fault.parentId with
  | some id => String.ofList (quoted id.toList)
  | none => "None"

/-- A node with its position and the position of the node that it hangs under. -/
structure Branch where
  index : Nat
  parent : Nat
  node : Node

/-- The latest position of an id among the nodes so far, which are given latest first. -/
def latestIndex? (id : String) : List Node → Option Nat
  | [] => none
  | node :: earlier => if node.id = id then some earlier.length else latestIndex? id earlier

/-- Where the nodes hang that come after the given earlier ones (latest first). -/
def branchesAfter (earlier : List Node) : List Node → Except OrphanFault (List Branch)
  | [] => .ok []
  | node :: rest =>
    match node.parentId.bind (latestIndex? · earlier) with
    | none => .error ⟨node.parentId⟩
    | some parent => do
      let later ← branchesAfter (node :: earlier) rest
      return { index := earlier.length, parent, node } :: later

/-- The trees that hang under the node at position `parent`. -/
def treesUnder (parent : Nat) : List Branch → List LabelTree
  | [] => []
  | branch :: later =>
    if branch.parent = parent then
      .node branch.node.treeLabel (treesUnder branch.index later) :: treesUnder parent later
    else treesUnder parent later

/-- The tree of a graph. -/
def Snapshot.toTree (snapshot : Snapshot) : Except OrphanFault LabelTree :=
  match snapshot.nodes with
  | [] => .ok (.node ["(empty)".toList] [])
  | root :: rest => do
    let branches ← branchesAfter [root] rest
    let start := (branches.reverse.find? (·.node.id == root.id)).getD
      { index := 0, parent := 0, node := root }
    return .node start.node.treeLabel
      (treesUnder start.index (branches.drop start.index))

/-- The drawing of a snapshot. -/
def Snapshot.renderTree (snapshot : Snapshot) : Except OrphanFault String :=
  snapshot.toTree.map LabelTree.render

end SourceOutline
