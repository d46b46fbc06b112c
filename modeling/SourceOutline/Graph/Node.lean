set_option autoImplicit false

/-! # Nodes and edges

A repository is shown as a graph of nodes: folders, files, and the definitions inside files. Every
node but the root names its parent, and an edge runs from the parent to it. Node ids are made of
the kind and the place of a node, so two scans of one tree give the same ids. -/

namespace SourceOutline

/-! ## Nodes -/

/-- The kind of a folder node. -/
def folderKind : String := "folder"

/-- The kind of a file node. -/
def fileKind : String := "file"

/-- The kinds of nodes that stand for a definition. -/
def definitionKinds : List String := ["class", "function"]

/-- A node of the graph. Definitions carry their range of lines and a snippet of their text. -/
structure Node where
  id : String
  label : String
  kind : String
  sourcePath : String
  startLine : Int := 0
  endLine : Option Int := none
  parentId : Option String := none
  snippet : Option String := none
deriving Repr, DecidableEq

/-- Whether a node stands for a definition. -/
def Node.isDefinition (node : Node) : Bool :=
  definitionKinds.contains node.kind

/-- Whether a node ends before it starts. -/
def Node.isReversed (node : Node) : Bool :=
  match node.endLine with
  | some last => decide (last < node.startLine)
  | none => false

/-- The id of the folder at `path`. -/
def folderId (path : String) : String :=
  folderKind ++ ":" ++ path

/-- The id of the file at `path`. -/
def fileId (path : String) : String :=
  fileKind ++ ":" ++ path

/-- The id of the definition of `name` that starts on line `startLine` of the file at `path`. -/
def definitionId (kind path : String) (startLine : Int) (name : String) : String :=
  kind ++ ":" ++ path ++ ":" ++ toString startLine ++ ":" ++ name

/-! ## Edges -/

/-- How a parent relates to its child. -/
def containsRelation : String := "contains"

/-- An edge between the nodes of two ids. -/
structure Edge where
  source : String
  target : String
  relation : String := containsRelation
deriving Repr, DecidableEq

/-- The edge from the parent of a node to it. -/
def Node.parentEdge? (node : Node) : Option Edge :=
  node.parentId.map fun parent => { source := parent, target := node.id }

end SourceOutline
