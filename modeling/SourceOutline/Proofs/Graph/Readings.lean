import SourceOutline.Proofs.Graph.Drawing

set_option autoImplicit false

/-! # Readings of a graph

The parents of the nodes of a graph are read in three ways: a query filters the nodes by their
parent, an export lists the edges that were made from the parents, and the drawing looks for the
parent of each node among those before it. On what a builder builds, after whatever it took and
refused and in whatever order the nodes came, the three tell the same tree
(`GraphBuilder.tellsOneTree_build`). -/

namespace SourceOutline

/-- The readings of a snapshot agree: the children of an id are the targets of the edges from it, in
    the order of the edges; from the root, by taking children again and again, every node is reached
    once; and the drawing succeeds and shows every node on a line of its own, below its parent. -/
structure Snapshot.TellsOneTree (snapshot : Snapshot) : Prop where
  map_id_childrenOf : ∀ id, (snapshot.childrenOf id).map (·.id)
    = (snapshot.edges.filter (·.source == id)).map (·.target)
  ids_nodup : snapshot.ids.Nodup
  perm_reached : ∀ rounds, snapshot.nodes.length ≤ rounds →
    (snapshot.reached rounds snapshot.root?.toList).Perm snapshot.nodes
  exists_renderTree : ∃ text, snapshot.renderTree = .ok text
  exists_isDrawnInOrder : snapshot.nodes ≠ [] →
    (∀ node ∈ snapshot.nodes, '\n' ∉ node.label.toList) →
    ∃ order lines, snapshot.IsDrawnInOrder order lines

/-- Among the edges of nodes, those from an id lead to the nodes that name it as their parent. -/
theorem map_target_parentEdges (nodes : List Node) (id : String) :
    ((nodes.filterMap Node.parentEdge?).filter (·.source == id)).map (·.target)
      = (nodes.filter (·.parentId == some id)).map (·.id) := by
  induction nodes with
  | nil => rfl
  | cons node rest ih =>
    cases hparent : node.parentId with
    | none => simpa [Node.parentEdge?, hparent] using ih
    | some parent =>
      by_cases hid : parent = id
      · simpa [Node.parentEdge?, hparent, hid] using ih
      · simpa [Node.parentEdge?, hparent, hid] using ih

/-- Nodes in the order of a tree unfold to one from the root, which has each of them once, and which
    is the one that is drawn. -/
theorem IsInTreeOrder.exists_unfolds {snapshot : Snapshot} (h : IsInTreeOrder snapshot.nodes)
    (hne : snapshot.nodes ≠ []) :
    ∃ tree : NodeTree, snapshot.root? = some tree.root ∧ tree.root.parentId = none ∧
      snapshot.Unfolds tree ∧ tree.preorder.Perm snapshot.nodes ∧
      snapshot.toTree = .ok tree.drawn := by
  obtain ⟨root, rest, hnodes⟩ := List.exists_cons_of_ne_nil hne
  rw [hnodes] at h
  have hroot := h.first_parentId root rest rfl
  have hrest := h.hangBelow
  have hbelow : (NodeTree.preorderAll (NodeTree.under root.id rest)).Perm rest := by
    simpa using NodeTree.perm_flatMap_under hrest (List.nodup_singleton _)
  refine ⟨.node root (NodeTree.under root.id rest), ?_, hroot, ?_, ?_, ?_⟩
  · rw [Snapshot.root?, hnodes]
    rfl
  · exact Snapshot.unfolds_under hnodes hroot hrest
  · rw [hnodes]
    exact hbelow.cons root
  · exact Snapshot.toTree_eq hnodes hrest

/-- A snapshot of nodes in the order of a tree tells one tree, if its edges are those from the
    parents. -/
theorem IsInTreeOrder.tellsOneTree {snapshot : Snapshot} (h : IsInTreeOrder snapshot.nodes)
    (hedges : snapshot.edges = snapshot.nodes.filterMap Node.parentEdge?) :
    snapshot.TellsOneTree where
  map_id_childrenOf id := by rw [hedges, map_target_parentEdges, Snapshot.childrenOf]
  ids_nodup := h.ids_nodup
  perm_reached := by
    intro rounds hrounds
    by_cases hne : snapshot.nodes = []
    · have hnone : ∀ tree ∈ ([] : List NodeTree), snapshot.Unfolds tree :=
        fun _ htree => absurd htree List.not_mem_nil
      simpa [Snapshot.root?, hne, NodeTree.preorderAll] using
        Snapshot.perm_reached hnone (Nat.zero_le rounds)
    · obtain ⟨tree, hroot, -, hunfolds, hperm, -⟩ := h.exists_unfolds hne
      have hall : NodeTree.preorderAll [tree] = tree.preorder := by
        rw [NodeTree.preorderAll, NodeTree.preorderAll, List.append_nil]
      have hreached : (snapshot.reached rounds [tree.root]).Perm tree.preorder := by
        have hone : ∀ t ∈ [tree], snapshot.Unfolds t := by simpa using hunfolds
        rw [← hall]
        refine Snapshot.perm_reached hone ?_
        rwa [hall, hperm.length_eq]
      rw [hroot]
      exact hreached.trans hperm
  exists_renderTree := by
    by_cases hne : snapshot.nodes = []
    · exact ⟨_, by rw [Snapshot.renderTree, Snapshot.toTree, hne]; rfl⟩
    · obtain ⟨tree, -, -, -, -, hdrawn⟩ := h.exists_unfolds hne
      exact ⟨_, by rw [Snapshot.renderTree, hdrawn]; rfl⟩
  exists_isDrawnInOrder := by
    intro hne hlabels
    obtain ⟨tree, -, hroot, hunfolds, hperm, hdrawn⟩ := h.exists_unfolds hne
    exact ⟨_, _, hunfolds.isDrawnInOrder hroot h.ids_nodup hperm hdrawn hlabels⟩

namespace GraphBuilder

/-- **The readings of a graph agree.** Whatever a builder has been asked, and whatever of it was
    refused, in what it builds the children of an id are the targets of the edges from it, in the
    order of the edges; the root, its children, their children and so on are all the nodes, each
    once; and the drawing finds the parent of every node. If no label holds a line break, the
    drawing has one line for each node, indented by four columns for each ancestor, so that every
    node but the root stands below the line of its parent, with nothing but what is deeper than the
    parent in between. -/
theorem tellsOneTree_build (requests : List Request) :
    (({} : GraphBuilder).run requests).build.TellsOneTree :=
  (isSound_empty.run requests).order.tellsOneTree (({} : GraphBuilder).run requests).edges_eq

/-- A node that comes after its sibling is drawn right below its parent. -/
example :
    let node (id : String) (parentId : Option String) : Node :=
      { id, label := id, kind := folderKind, sourcePath := id, parentId }
    (({} : GraphBuilder).run [.add (node "r" none), .add (node "s" none),
      .extend [node "a" (some "r"), node "b" (some "r"), node "c" (some "a"),
        node "d" (some "e")]]).build.renderTree
      = .ok "r\n├── a\n│   └── c\n└── b\n" := by decide +kernel

end GraphBuilder

end SourceOutline
