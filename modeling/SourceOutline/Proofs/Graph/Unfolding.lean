import SourceOutline.Proofs.Graph.Preorder
import SourceOutline.Proofs.Graph.Acceptance

set_option autoImplicit false

/-! # The tree that the parents unfold to

The nodes of a graph need not come in preorder: a builder takes a node whenever its parent has come,
however many others came in between. Still the parents tell one tree. What hangs under an id is
found by one pass over the later nodes (`NodeTree.under`), and in the tree that this gives each node
has its children in the graph right below it (`Snapshot.Unfolds`), which leaves no choice
(`Snapshot.Unfolds.unique`). Every node stands in the tree once (`NodeTree.perm_flatMap_under`), so
the children of the root, their children and so on are all the nodes, each once
(`Snapshot.perm_reached`). -/

namespace SourceOutline

/-! ## Nodes below known ones -/

/-- Nodes that hang below the ids `known`: no id comes twice, and the parent of each is known or
    comes before it. Ranges make no difference here, unlike in `Follows`. -/
inductive HangBelow : List String → List Node → Prop
  | nil {known : List String} : HangBelow known []
  | cons {known : List String} {node : Node} {rest : List Node} {parent : String}
      (hnew : node.id ∉ known) (hparent : node.parentId = some parent) (hknown : parent ∈ known)
      (hrest : HangBelow (node.id :: known) rest) : HangBelow known (node :: rest)

namespace HangBelow

variable {known : List String} {nodes : List Node}

theorem id_notMem (h : HangBelow known nodes) : ∀ n ∈ nodes, n.id ∉ known := by
  induction h with
  | nil => simp
  | cons hnew _ _ _ ih =>
    intro n hn
    rcases List.mem_cons.1 hn with rfl | hrest
    · exact hnew
    · exact fun hknown => ih n hrest (List.mem_cons_of_mem _ hknown)

/-- Nodes of different ids hang below earlier ones (latest first) if the parent of each comes before
    it. -/
theorem of_exists_parent {earlier : List Node}
    (hdistinct : (earlier.map (·.id) ++ nodes.map (·.id)).Nodup)
    (hparent : ∀ before node after, nodes = before ++ node :: after →
      ∃ parent, (parent ∈ earlier ∨ parent ∈ before) ∧ node.parentId = some parent.id) :
    HangBelow (earlier.map (·.id)) nodes := by
  -- each node joins the earlier ones once it has been looked at
  induction nodes generalizing earlier with
  | nil => exact .nil
  | cons node rest ih =>
    rw [List.map_cons, List.perm_middle.nodup_iff] at hdistinct
    obtain ⟨parent, hin, hid⟩ := hparent [] node rest rfl
    have hearlier : parent ∈ earlier := hin.resolve_right List.not_mem_nil
    have hnew : node.id ∉ earlier.map (·.id) := fun hmem =>
      (List.nodup_cons.1 hdistinct).1 (List.mem_append_left _ hmem)
    have hrest : HangBelow ((node :: earlier).map (·.id)) rest := by
      refine ih hdistinct fun before n after hsplit => ?_
      obtain ⟨p, hp, hpid⟩ := hparent (node :: before) n after (by rw [hsplit]; rfl)
      refine ⟨p, ?_, hpid⟩
      simp only [List.mem_cons] at hp ⊢
      tauto
    exact .cons hnew hid (List.mem_map_of_mem hearlier) hrest

end HangBelow

theorem IsInTreeOrder.hangBelow {root : Node} {rest : List Node}
    (h : IsInTreeOrder (root :: rest)) : HangBelow [root.id] rest := by
  change HangBelow ([root].map (·.id)) rest
  refine .of_exists_parent h.ids_nodup fun before node after hrest => ?_
  obtain ⟨parent, hmem, hid⟩ :=
    h.exists_parent (root :: before) node after (by rw [hrest]; rfl) (by simp)
  exact ⟨parent, by simpa using hmem, hid⟩

/-! ## What hangs under an id -/

namespace NodeTree

/-- Trees are the same if their tops are, and a tree is known from its top. -/
theorem eq_of_map_root_eq {trees others : List NodeTree}
    (hknown : ∀ tree ∈ trees, ∀ other ∈ others, tree.root = other.root → tree = other)
    (h : trees.map root = others.map root) : trees = others := by
  induction trees generalizing others with
  | nil => exact (List.map_eq_nil_iff.1 h.symm).symm
  | cons tree rest ih =>
    cases others with
    | nil => cases h
    | cons first others =>
      obtain ⟨htop, hrest⟩ := List.cons.inj h
      have hfirst := hknown tree List.mem_cons_self first List.mem_cons_self htop
      have hothers : ∀ t ∈ rest, ∀ other ∈ others, t.root = other.root → t = other :=
        fun t ht other hother =>
          hknown t (List.mem_cons_of_mem _ ht) other (List.mem_cons_of_mem _ hother)
      rw [hfirst, ih hothers hrest]

/-- The nodes of trees are their tops and the nodes of the trees right below these. -/
theorem perm_preorderAll (trees : List NodeTree) :
    (preorderAll trees).Perm (trees.map root ++ preorderAll (trees.flatMap children)) := by
  induction trees with
  | nil => exact .refl _
  | cons tree rest ih =>
    rw [preorderAll, preorder_eq, List.map_cons, List.flatMap_cons, preorderAll_append,
      List.cons_append, List.cons_append]
    refine .cons _ (.trans (ih.append_left _) ?_)
    exact List.perm_append_comm_assoc _ _ _

/-- The trees of the nodes that name `id` as their parent, each with what hangs under it later. -/
def under (id : String) : List Node → List NodeTree
  | [] => []
  | n :: later =>
    if n.parentId = some id then node n (under n.id later) :: under id later else under id later

theorem map_root_under (id : String) (later : List Node) :
    (under id later).map root = later.filter (·.parentId == some id) := by
  induction later with
  | nil => rfl
  | cons n later ih =>
    unfold under
    by_cases hid : n.parentId = some id
    · simp [hid, ih, root]
    · simp [hid, ih]

/-- A node that names an id puts itself and what hangs under it before the rest of what hangs under
    that id. -/
theorem preorderAll_under_cons {n : Node} {id : String} (later : List Node)
    (h : n.parentId = some id) :
    preorderAll (under id (n :: later))
      = n :: (preorderAll (under n.id later) ++ preorderAll (under id later)) := by
  rw [under, if_pos h, preorderAll, preorder, List.cons_append]

/-- What hangs under the known ids is all that hangs below them, each node once. -/
theorem perm_flatMap_under {known : List String} {nodes : List Node} (h : HangBelow known nodes)
    (hknown : known.Nodup) :
    (known.flatMap fun id => preorderAll (under id nodes)).Perm nodes := by
  induction h with
  | nil => simp [under, preorderAll]
  | @cons known n rest parent hnew hparent hmem _ ih =>
    have hrest := ih (List.nodup_cons.2 ⟨hnew, hknown⟩)
    -- the new node hangs under one of the known ids, and under no other
    obtain ⟨left, right, rfl⟩ := List.append_of_mem hmem
    have hother : ∀ id ∈ left ++ right, under id (n :: rest) = under id rest := by
      intro id hid
      rw [under, if_neg]
      rintro heq
      obtain rfl := Option.some.inj (hparent.symm.trans heq)
      exact (List.nodup_cons.1 (List.perm_middle.nodup_iff.1 hknown)).1 hid
    have hleft : (left.flatMap fun id => preorderAll (under id (n :: rest)))
        = left.flatMap fun id => preorderAll (under id rest) :=
      List.flatMap_congr fun id hid => by rw [hother id (List.mem_append_left _ hid)]
    have hright : (right.flatMap fun id => preorderAll (under id (n :: rest)))
        = right.flatMap fun id => preorderAll (under id rest) :=
      List.flatMap_congr fun id hid => by rw [hother id (List.mem_append_right _ hid)]
    rw [List.flatMap_append, List.flatMap_cons, hleft, hright, preorderAll_under_cons rest hparent]
    simp only [List.flatMap_cons, List.flatMap_append] at hrest
    simp only [List.cons_append, List.append_assoc]
    refine List.perm_middle.trans (.cons n (.trans ?_ hrest))
    exact List.perm_append_comm_assoc _ _ _

end NodeTree

/-! ## Unfolding -/

namespace Snapshot

/-- A tree in which each node has its children in the snapshot right below it. -/
inductive Unfolds (snapshot : Snapshot) : NodeTree → Prop
  | node {root : Node} {children : List NodeTree} (hroot : root ∈ snapshot.nodes)
      (hchildren : children.map NodeTree.root = snapshot.childrenOf root.id)
      (hbelow : ∀ child ∈ children, Unfolds snapshot child) : Unfolds snapshot (.node root children)

variable {snapshot : Snapshot}

theorem mem_childrenOf {id : String} {n : Node} :
    n ∈ snapshot.childrenOf id ↔ n ∈ snapshot.nodes ∧ n.parentId = some id := by
  simp [childrenOf]

theorem Unfolds.mem_nodes {tree : NodeTree} (h : snapshot.Unfolds tree) :
    ∀ n ∈ tree.preorder, n ∈ snapshot.nodes := by
  induction h with
  | node hroot _ _ ih =>
    intro n hn
    rcases List.mem_cons.1 hn with rfl | hdeep
    · exact hroot
    · obtain ⟨child, hchild, hin⟩ := NodeTree.mem_preorderAll.1 hdeep
      exact ih child hchild n hin

theorem Unfolds.unique {tree other : NodeTree} (h : snapshot.Unfolds tree)
    (hother : snapshot.Unfolds other) (hroot : tree.root = other.root) : tree = other := by
  induction h generalizing other with
  | @node root children _ hchildren _ ih =>
    cases hother with
    | @node otherRoot others _ hothers hbelow =>
      obtain rfl : root = otherRoot := hroot
      have hsame : children = others :=
        NodeTree.eq_of_map_root_eq (fun tree htree _ hother => ih tree htree (hbelow _ hother))
          (hchildren.trans hothers.symm)
      rw [hsame]

theorem unfolds_of_mem_under {known : List String} {before later : List Node}
    (h : HangBelow known later) (hnodes : snapshot.nodes = before ++ later)
    (hbefore : ∀ n ∈ before, ∀ id, n.parentId = some id → id ∈ known) :
    ∀ id, ∀ tree ∈ NodeTree.under id later, snapshot.Unfolds tree := by
  induction h generalizing before with
  | nil => exact fun _ _ htree => absurd htree List.not_mem_nil
  | @cons known n rest parent hnew hparent hmem _ ih =>
    have hnames : ∀ m ∈ before ++ [n], ∀ id, m.parentId = some id → id ∈ known := by
      intro m hm id hid
      rcases List.mem_append.1 hm with hin | hlast
      · exact hbefore m hin id hid
      · obtain rfl := List.mem_singleton.1 hlast
        obtain rfl := Option.some.inj (hparent.symm.trans hid)
        exact hmem
    have hsplit : snapshot.nodes = (before ++ [n]) ++ rest := by simp [hnodes]
    have hrest := ih hsplit fun m hm id hid => List.mem_cons_of_mem _ (hnames m hm id hid)
    -- nothing up to the node names it, since its id is not known yet
    have hnone : (before ++ [n]).filter (·.parentId == some n.id) = [] :=
      List.filter_eq_nil_iff.2 fun m hm hid => hnew (hnames m hm n.id (beq_iff_eq.1 hid))
    have hchildren : (NodeTree.under n.id rest).map NodeTree.root = snapshot.childrenOf n.id := by
      rw [NodeTree.map_root_under, childrenOf, hsplit, List.filter_append, hnone, List.nil_append]
    intro id tree htree
    unfold NodeTree.under at htree
    split at htree
    case isTrue =>
      rcases List.mem_cons.1 htree with rfl | hlater
      · exact .node (by simp [hnodes]) hchildren (hrest n.id)
      · exact hrest id tree hlater
    case isFalse => exact hrest id tree htree

theorem unfolds_under {root : Node} {rest : List Node} (hnodes : snapshot.nodes = root :: rest)
    (hroot : root.parentId = none) (hrest : HangBelow [root.id] rest) :
    snapshot.Unfolds (.node root (NodeTree.under root.id rest)) := by
  have hnone : ∀ n ∈ [root], ∀ id, n.parentId = some id → id ∈ [root.id] := by
    intro n hn id hid
    rw [List.mem_singleton.1 hn, hroot] at hid
    cases hid
  refine .node (by simp [hnodes]) ?_ (unfolds_of_mem_under hrest hnodes hnone root.id)
  simp [NodeTree.map_root_under, childrenOf, hnodes, hroot]

end Snapshot

namespace NodeTree

theorem IsSubtree.of_mem_children {sub tree child : NodeTree} (h : IsSubtree sub tree)
    (hchild : child ∈ sub.children) : IsSubtree child tree := by
  induction h with
  | refl => exact .child hchild (.refl _)
  | child htop _ ih => exact .child htop ih

/-- A tree that is written down node by node without repetition is unfolded. -/
theorem IsContainment.unfolds {tree : NodeTree} {snapshot : Snapshot}
    (htree : tree.IsContainment) (hclosed : tree.IsClosed)
    (hnodes : snapshot.nodes = tree.preorder) : snapshot.Unfolds tree := by
  have hall : ∀ sub : NodeTree, sub.IsContainment → IsSubtree sub tree → snapshot.Unfolds sub := by
    intro sub hcontainment
    induction hcontainment with
    | @node root children _ _ _ ih =>
      intro hsub
      have hroot : root ∈ snapshot.nodes := hnodes ▸ hsub.mem_preorder List.mem_cons_self
      have hchildren : snapshot.childrenOf root.id = children.map NodeTree.root :=
        hsub.childrenOf_eq htree hclosed (hsub.isClosed htree hclosed) hnodes
      exact .node hroot hchildren.symm fun child hchild =>
        ih child hchild (hsub.of_mem_children hchild)
  exact hall tree htree (.refl tree)

end NodeTree

/-! ## Reaching the nodes -/

namespace Snapshot

variable {snapshot : Snapshot}

/-- The given nodes, then their children, then the children of these, for a number of rounds. -/
def reached (snapshot : Snapshot) : Nat → List Node → List Node
  | 0, _ => []
  | rounds + 1, nodes =>
    nodes ++ snapshot.reached rounds (nodes.flatMap fun node => snapshot.childrenOf node.id)

theorem flatMap_childrenOf {trees : List NodeTree} (h : ∀ tree ∈ trees, snapshot.Unfolds tree) :
    ((trees.map NodeTree.root).flatMap fun node => snapshot.childrenOf node.id)
      = (trees.flatMap NodeTree.children).map NodeTree.root := by
  rw [List.flatMap_map, List.map_flatMap]
  refine List.flatMap_congr fun tree htree => ?_
  cases h tree htree with
  | node _ hchildren _ => exact hchildren.symm

/-- From the tops of unfolded trees all their nodes are reached, each as often as it stands there,
    in no more rounds than there are nodes. -/
theorem perm_reached {trees : List NodeTree} {rounds : Nat}
    (h : ∀ tree ∈ trees, snapshot.Unfolds tree)
    (hrounds : (NodeTree.preorderAll trees).length ≤ rounds) :
    (snapshot.reached rounds (trees.map NodeTree.root)).Perm (NodeTree.preorderAll trees) := by
  have hlevels := NodeTree.perm_preorderAll trees
  induction rounds generalizing trees with
  | zero =>
    rw [List.length_eq_zero_iff.1 (Nat.le_zero.1 hrounds)]
    exact .refl _
  | succ rounds ih =>
    have hbelow : ∀ tree ∈ trees.flatMap NodeTree.children, snapshot.Unfolds tree := by
      intro child hchild
      obtain ⟨tree, htree, hin⟩ := List.mem_flatMap.1 hchild
      cases h tree htree with
      | node _ _ hbelow => exact hbelow child hin
    have hfewer : (NodeTree.preorderAll (trees.flatMap NodeTree.children)).length ≤ rounds := by
      have hlength := hlevels.length_eq
      rw [List.length_append, List.length_map] at hlength
      cases trees with
      | nil => simp [NodeTree.preorderAll]
      | cons tree rest =>
        rw [List.length_cons] at hlength
        omega
    rw [reached, flatMap_childrenOf h]
    exact ((ih hbelow hfewer (NodeTree.perm_preorderAll _)).append_left _).trans hlevels.symm

end Snapshot

end SourceOutline
