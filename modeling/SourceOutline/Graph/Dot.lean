import SourceOutline.Graph.Snapshot

set_option autoImplicit false

/-! # Graphs in the DOT language

A graph is written with one statement a line: the nodes first, then the edges. Ids and labels are
quoted; inside the quotes a backslash and a quote are escaped by a backslash, so no text can end
its string early. -/

namespace SourceOutline

/-- A character inside a quoted string. -/
def escapeDot (c : Char) : List Char :=
  if c = '\\' || c = '"' then ['\\', c] else [c]

/-- Text as it stands inside a quoted string. -/
def dotText (s : String) : List Char :=
  s.toList.flatMap escapeDot

/-- A quoted string. -/
def dotString (text : List Char) : List Char :=
  '"' :: text ++ ['"']

/-- The shape in which a node is drawn. -/
def dotShape (kind : String) : String :=
  match kind with
  | "folder" => "folder"
  | "file" => "note"
  | "class" => "box"
  | "function" => "ellipse"
  | _ => "box"

/-- The rows of a node's label: its kind, its label, and its range of lines if it has one. -/
def Node.dotRows (node : Node) : List String :=
  [node.kind, node.label]
    ++ (node.endLine.map fun last => toString node.startLine ++ "-" ++ toString last).toList

/-- The statement of a node. -/
def Node.dotStatement (node : Node) : List Char :=
  "  ".toList ++ dotString (dotText node.id) ++ " [label=".toList
    ++ dotString (List.intercalate ['\\', 'n'] (node.dotRows.map dotText))
    ++ ", shape=".toList ++ (dotShape node.kind).toList ++ "];".toList

/-- The statement of an edge. -/
def Edge.dotStatement (edge : Edge) : List Char :=
  "  ".toList ++ dotString (dotText edge.source) ++ " -> ".toList
    ++ dotString (dotText edge.target) ++ " [label=".toList ++ dotString (dotText edge.relation)
    ++ "];".toList

/-- The statements of a graph, with the lines that open and close it. -/
def Snapshot.dotLines (snapshot : Snapshot) : List (List Char) :=
  ["digraph RepoGraph \x7b".toList, "  rankdir=LR;".toList]
    ++ snapshot.nodes.map Node.dotStatement ++ snapshot.edges.map Edge.dotStatement ++ [['\x7d']]

/-- The DOT text of a snapshot, without a break at its end. -/
def Snapshot.renderDot (snapshot : Snapshot) : String :=
  String.ofList (List.intercalate ['\n'] snapshot.dotLines)

end SourceOutline
