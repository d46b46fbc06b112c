import Mathlib.Data.List.Nodup
import SourceOutline.Graph.Snapshot

set_option autoImplicit false

/-! # Trees of nodes, node by node

The nodes of a graph stand for a tree: each names the node that contains it. A tree that is written
down node by node, each before what it contains, gives a sequence in which the nodes below a node
are a block right after it (`IsSubtree.exists_block`). What a node contains is told by the parents
alone (`Snapshot.Contains`); that it is the same as what stands below it in the tree needs that no
id comes twice, so that nothing outside a subtree can hang under a node inside
(`IsSubtree.filter_parents`). -/

namespace SourceOutline

/-! ## What contains what -/

namespace Snapshot

/-- A node contains the nodes that name it as their parent, and whatever these contain. -/
inductive Contains (snapshot : Snapshot) : Node → Node → Prop
  | child {parent node : Node} (hparent : parent ∈ snapshot.nodes) (hnode : node ∈ snapshot.nodes)
      (hid : node.parentId = some parent.id) : Contains snapshot parent node
  | deeper {outer parent node : Node} (hparent : Contains snapshot outer parent)
      (hnode : node ∈ snapshot.nodes) (hid : node.parentId = some parent.id) :
      Contains snapshot outer node

variable {snapshot : Snapshot}

theorem Contains.mem {outer node : Node} (h : snapshot.Contains outer node) :
    node ∈ snapshot.nodes := by
  cases h with
  | child _ hnode _ => exact hnode
  | deeper _ hnode _ => exact hnode

theorem Contains.trans {outer middle inner : Node} (h : snapshot.Contains outer middle)
    (hinner : snapshot.Contains middle inner) : snapshot.Contains outer inner := by
  induction hinner with
  | child _ hnode hid => exact .deeper h hnode hid
  | deeper _ hnode hid ih => exact .deeper ih hnode hid

/-- The nodes above a node are its parent, the parent of that, and so on up to the root. -/
inductive HasAncestors (snapshot : Snapshot) : Node → List Node → Prop
  | root {node : Node} (hnode : node ∈ snapshot.nodes) (hid : node.parentId = none) :
      HasAncestors snapshot node []
  | child {parent node : Node} {above : List Node} (hparent : HasAncestors snapshot parent above)
      (hnode : node ∈ snapshot.nodes) (hid : node.parentId = some parent.id) :
      HasAncestors snapshot node (parent :: above)

theorem HasAncestors.mem {node : Node} {above : List Node}
    (h : snapshot.HasAncestors node above) : node ∈ snapshot.nodes := by
  cases h with
  | root hnode _ => exact hnode
  | child _ hnode _ => exact hnode

/-- A node is known from its id if no id comes twice. -/
theorem eq_of_id_eq (hdistinct : snapshot.ids.Nodup) {a b : Node} (ha : a ∈ snapshot.nodes)
    (hb : b ∈ snapshot.nodes) (h : a.id = b.id) : a = b :=
  List.inj_on_of_nodup_map hdistinct ha hb h

/-- A node has one sequence of ancestors if no id comes twice. -/
theorem HasAncestors.unique (hdistinct : snapshot.ids.Nodup) {node : Node} {above other : List Node}
    (h : snapshot.HasAncestors node above) (hother : snapshot.HasAncestors node other) :
    above = other := by
  induction h generalizing other with
  | root _ hid =>
    cases hother with
    | root => rfl
    | child _ _ hparent => cases hid.symm.trans hparent
  | child hparent _ hid ih =>
    cases hother with
    | root _ hnone => cases hid.symm.trans hnone
    | child hotherParent _ hotherId =>
      have hids := Option.some.inj (hid.symm.trans hotherId)
      obtain rfl := eq_of_id_eq hdistinct hparent.mem hotherParent.mem hids
      rw [ih hotherParent]

end Snapshot

/-! ## Trees -/

/-- A node with the trees of what it contains. -/
inductive NodeTree where
  | node (root : Node) (children : List NodeTree)

namespace NodeTree

/-- The node at the top. -/
def root : NodeTree → Node
  | node root _ => root

/-- The trees right below the top. -/
def children : NodeTree → List NodeTree
  | node _ children => children

mutual

/-- The nodes of a tree, each before what it contains. -/
def preorder : NodeTree → List Node
  | node root children => root :: preorderAll children

/-- The nodes of trees, one tree after another. -/
def preorderAll : List NodeTree → List Node
  | [] => []
  | tree :: rest => tree.preorder ++ preorderAll rest

end

theorem preorderAll_append (trees others : List NodeTree) :
    preorderAll (trees ++ others) = preorderAll trees ++ preorderAll others := by
  induction trees with
  | nil => rfl
  | cons tree rest ih => rw [List.cons_append, preorderAll, preorderAll, ih, List.append_assoc]

theorem preorder_eq (tree : NodeTree) : tree.preorder = tree.root :: preorderAll tree.children := by
  obtain ⟨root, children⟩ := tree
  rfl

theorem root_mem_preorder (tree : NodeTree) : tree.root ∈ tree.preorder := by
  rw [preorder_eq]
  exact List.mem_cons_self

theorem mem_preorderAll {trees : List NodeTree} {n : Node} :
    n ∈ preorderAll trees ↔ ∃ tree ∈ trees, n ∈ tree.preorder := by
  induction trees with
  | nil => simp [preorderAll]
  | cons tree rest ih => simp [preorderAll, ih]

end NodeTree

/-- A node comes before another below the same parent: by its name in a folder, and by its line in
    anything else. -/
def Node.IsBefore (parent a b : Node) : Prop :=
  if parent.kind = folderKind then a.label < b.label else a.startLine < b.startLine

namespace NodeTree

/-- In a tree every node names the one right above it as its parent, and the nodes right below one
    come in order. -/
inductive IsContainment : NodeTree → Prop
  | node {root : Node} {children : List NodeTree}
      (hparent : ∀ child ∈ children, child.root.parentId = some root.id)
      (horder : children.Pairwise fun a b => root.IsBefore a.root b.root)
      (hchildren : ∀ child ∈ children, child.IsContainment) :
      IsContainment (node root children)

theorem IsContainment.exists_parent {tree : NodeTree} (h : tree.IsContainment) :
    ∀ n ∈ preorderAll tree.children, ∃ parent ∈ tree.preorder, n.parentId = some parent.id := by
  induction h with
  | @node root children hparent _ _ ih =>
    intro n hn
    obtain ⟨child, hchild, hin⟩ := mem_preorderAll.1 hn
    rw [preorder_eq] at hin
    rcases List.mem_cons.1 hin with rfl | hbelow
    · exact ⟨root, List.mem_cons_self, hparent child hchild⟩
    · obtain ⟨parent, hmem, hid⟩ := ih child hchild n hbelow
      exact ⟨parent, List.mem_cons_of_mem _ (mem_preorderAll.2 ⟨child, hchild, hmem⟩), hid⟩

/-! ## Subtrees -/

/-- A tree stands in another, as a whole or below its top. -/
inductive IsSubtree : NodeTree → NodeTree → Prop
  | refl (tree : NodeTree) : IsSubtree tree tree
  | child {sub tree child : NodeTree} (hchild : child ∈ tree.children) (h : IsSubtree sub child) :
      IsSubtree sub tree

namespace IsSubtree

variable {sub tree : NodeTree}

theorem isContainment (h : IsSubtree sub tree) (htree : tree.IsContainment) :
    sub.IsContainment := by
  induction h with
  | refl => exact htree
  | child hchild _ ih =>
    cases htree with
    | node _ _ hchildren => exact ih (hchildren _ hchild)

theorem mem_preorder (h : IsSubtree sub tree) {n : Node} (hn : n ∈ sub.preorder) :
    n ∈ tree.preorder := by
  induction h with
  | refl => exact hn
  | child hchild _ ih =>
    rw [preorder_eq]
    exact List.mem_cons_of_mem _ (mem_preorderAll.2 ⟨_, hchild, ih⟩)

end IsSubtree

mutual

/-- After a node of a tree come the nodes of the trees below it. -/
theorem exists_isSubtree {before after : List Node} {n : Node} :
    ∀ tree : NodeTree, tree.preorder = before ++ n :: after →
      ∃ children rest, IsSubtree (node n children) tree ∧ after = preorderAll children ++ rest
  | node root children, h => by
    cases before with
    | nil =>
      obtain ⟨rfl, rfl⟩ := List.cons.inj h
      exact ⟨children, [], .refl _, (List.append_nil _).symm⟩
    | cons first before =>
      obtain ⟨child, hchild, below, rest, hsub, hafter⟩ :=
        exists_isSubtree_all children (List.cons.inj h).2
      exact ⟨below, rest, .child hchild hsub, hafter⟩

theorem exists_isSubtree_all {before after : List Node} {n : Node} :
    ∀ trees : List NodeTree, preorderAll trees = before ++ n :: after →
      ∃ tree ∈ trees, ∃ children rest, IsSubtree (node n children) tree ∧
        after = preorderAll children ++ rest
  | [], h => by simp [preorderAll] at h
  | tree :: trees, h => by
    rw [preorderAll] at h
    rcases List.append_eq_append_iff.1 h with ⟨between, hbefore, hlater⟩ | ⟨between, htree, hn⟩
    · -- the node stands in a later tree
      obtain ⟨other, hother, children, rest, hsub, hafter⟩ := exists_isSubtree_all trees hlater
      exact ⟨other, List.mem_cons_of_mem _ hother, children, rest, hsub, hafter⟩
    · cases between with
      | nil =>
        have hlater : preorderAll trees = [] ++ n :: after := hn.symm
        obtain ⟨other, hother, children, rest, hsub, hafter⟩ := exists_isSubtree_all trees hlater
        exact ⟨other, List.mem_cons_of_mem _ hother, children, rest, hsub, hafter⟩
      | cons first between =>
        obtain ⟨rfl, hafter⟩ := List.cons.inj hn
        obtain ⟨children, rest, hsub, hbetween⟩ := exists_isSubtree tree htree
        refine ⟨tree, List.mem_cons_self, children, rest ++ preorderAll trees, hsub, ?_⟩
        rw [hafter, hbetween]
        exact List.append_assoc _ _ _

end

/-! ## Distinct ids -/

/-- No id comes twice, and the top hangs under none of the nodes. -/
structure IsClosed (tree : NodeTree) : Prop where
  distinct : (tree.preorder.map (·.id)).Nodup
  outside : ∀ n ∈ tree.preorder, tree.root.parentId ≠ some n.id

/-- Whether a node hangs right under a node of a tree. -/
def hangsIn (tree : NodeTree) (n : Node) : Bool :=
  tree.preorder.any fun parent => n.parentId == some parent.id

theorem hangsIn_eq_true_iff {tree : NodeTree} {n : Node} :
    tree.hangsIn n = true ↔ ∃ parent ∈ tree.preorder, n.parentId = some parent.id := by
  simp [hangsIn]

section

variable {root : Node} {before after : List NodeTree} {child other : NodeTree}

theorem id_ne_of_children
    (hdistinct : ((preorderAll (before ++ child :: after)).map (·.id)).Nodup)
    (hother : other ∈ before ∨ other ∈ after) {a b : Node} (ha : a ∈ other.preorder)
    (hb : b ∈ child.preorder) : a.id ≠ b.id := by
  rw [preorderAll_append, preorderAll, List.map_append, List.map_append] at hdistinct
  obtain ⟨-, hrest, hleft⟩ := List.nodup_append.1 hdistinct
  have hid : b.id ∈ child.preorder.map (·.id) := List.mem_map_of_mem hb
  rcases hother with hbefore | hafter
  · have hin : a.id ∈ (preorderAll before).map (·.id) :=
      List.mem_map_of_mem (mem_preorderAll.2 ⟨other, hbefore, ha⟩)
    exact hleft _ hin _ (List.mem_append_left _ hid)
  · have hin : a.id ∈ (preorderAll after).map (·.id) :=
      List.mem_map_of_mem (mem_preorderAll.2 ⟨other, hafter, ha⟩)
    exact fun heq => (List.nodup_append.1 hrest).2.2 _ hid _ hin heq.symm

theorem IsClosed.id_ne_root {tree : NodeTree} (h : tree.IsClosed) :
    ∀ n ∈ preorderAll tree.children, tree.root.id ≠ n.id := by
  intro n hn heq
  have hdistinct := h.distinct
  rw [preorder_eq, List.map_cons, List.nodup_cons] at hdistinct
  refine hdistinct.1 ?_
  rw [heq]
  exact List.mem_map_of_mem hn

theorem IsClosed.of_child {children : List NodeTree} (h : (node root children).IsClosed)
    (htree : (node root children).IsContainment) (hchild : child ∈ children) :
    child.IsClosed := by
  have hsub : child.preorder.Sublist (preorderAll children) := by
    obtain ⟨before, after, rfl⟩ := List.append_of_mem hchild
    rw [preorderAll_append, preorderAll]
    exact (List.sublist_append_left _ _).trans (List.sublist_append_right _ _)
  refine ⟨(List.nodup_cons.1 h.distinct).2.sublist (hsub.map _), fun n hn hid => ?_⟩
  cases htree with
  | node hparent _ _ =>
    rw [hparent child hchild] at hid
    exact h.id_ne_root n (hsub.subset hn) (Option.some.inj hid)

/-- The nodes of one tree below a node do not hang in another. -/
theorem hangsIn_eq_false {sub : NodeTree}
    (h : (node root (before ++ child :: after)).IsClosed)
    (htree : (node root (before ++ child :: after)).IsContainment)
    (hsub : IsSubtree sub child) (hother : other ∈ before ∨ other ∈ after) :
    ∀ n ∈ other.preorder, sub.hangsIn n = false := by
  have hdistinct := (List.nodup_cons.1 h.distinct).2
  have hmem : other ∈ before ++ child :: after := by
    rcases hother with hbefore | hafter
    · exact List.mem_append_left _ hbefore
    · exact List.mem_append_right _ (List.mem_cons_of_mem _ hafter)
  intro n hn
  refine Bool.eq_false_iff.2 fun hin => ?_
  obtain ⟨parent, hparent, hid⟩ := hangsIn_eq_true_iff.1 hin
  have hbelow := hsub.mem_preorder hparent
  cases htree with
  | node htop _ hchildren =>
    rw [preorder_eq] at hn
    rcases List.mem_cons.1 hn with rfl | hdeep
    · -- the top of the other tree hangs under the node itself
      rw [htop other hmem] at hid
      have hin : child ∈ before ++ child :: after :=
        List.mem_append_right _ List.mem_cons_self
      exact h.id_ne_root parent (mem_preorderAll.2 ⟨child, hin, hbelow⟩) (Option.some.inj hid)
    · obtain ⟨own, hown, hownId⟩ := (hchildren other hmem).exists_parent n hdeep
      exact id_ne_of_children hdistinct hother hown hbelow
        (Option.some.inj (hownId.symm.trans hid))

end

variable {sub tree : NodeTree}

/-- What hangs in a subtree is what stands below its top. -/
theorem IsSubtree.filter_hangsIn (h : IsSubtree sub tree) (htree : tree.IsContainment)
    (hclosed : tree.IsClosed) :
    tree.preorder.filter sub.hangsIn = preorderAll sub.children := by
  induction h with
  | refl =>
    have htop : sub.hangsIn sub.root = false := by
      refine Bool.eq_false_iff.2 fun hin => ?_
      obtain ⟨parent, hparent, hid⟩ := hangsIn_eq_true_iff.1 hin
      exact hclosed.outside parent hparent hid
    rw [preorder_eq, List.filter_cons_of_neg (by simp [htop]), List.filter_eq_self]
    exact fun n hn => hangsIn_eq_true_iff.2 (htree.exists_parent n hn)
  | @child tree child hchild hsub ih =>
    obtain ⟨root, children⟩ := tree
    obtain ⟨before, after, rfl⟩ := List.append_of_mem hchild
    have hbelow : child.IsContainment := by
      cases htree with
      | node _ _ hchildren => exact hchildren child hchild
    have htop : sub.hangsIn root = false := by
      refine Bool.eq_false_iff.2 fun hin => ?_
      obtain ⟨parent, hparent, hid⟩ := hangsIn_eq_true_iff.1 hin
      exact hclosed.outside parent ((IsSubtree.child hchild hsub).mem_preorder hparent) hid
    have hbefore : (preorderAll before).filter sub.hangsIn = [] := by
      refine List.filter_eq_nil_iff.2 fun n hn => ?_
      obtain ⟨other, hother, hin⟩ := mem_preorderAll.1 hn
      rw [hangsIn_eq_false hclosed htree hsub (.inl hother) n hin]
      nofun
    have hafter : (preorderAll after).filter sub.hangsIn = [] := by
      refine List.filter_eq_nil_iff.2 fun n hn => ?_
      obtain ⟨other, hother, hin⟩ := mem_preorderAll.1 hn
      rw [hangsIn_eq_false hclosed htree hsub (.inr hother) n hin]
      nofun
    rw [preorder, List.filter_cons_of_neg (by simp [htop]), preorderAll_append, preorderAll,
      List.filter_append, List.filter_append, hbefore, hafter, List.nil_append, List.append_nil]
    exact ih hbelow (hclosed.of_child htree hchild)

theorem filter_parentId (htree : tree.IsContainment) (hclosed : tree.IsClosed) :
    (preorderAll tree.children).filter (·.parentId == some tree.root.id)
      = tree.children.map root := by
  have hnew := hclosed.id_ne_root
  obtain ⟨top, children⟩ := tree
  cases htree with
  | node hparent horder hchildren =>
    change ∀ n ∈ preorderAll children, top.id ≠ n.id at hnew
    change (preorderAll children).filter (·.parentId == some top.id) = children.map root
    clear hclosed horder
    induction children with
    | nil => rfl
    | cons child rest ih =>
      -- below the top of a tree, every node names a node of that tree
      have hdeep : (preorderAll child.children).filter (·.parentId == some top.id) = [] := by
        refine List.filter_eq_nil_iff.2 fun n hn hid => ?_
        obtain ⟨parent, hmem, hown⟩ :=
          (hchildren child List.mem_cons_self).exists_parent n hn
        rw [beq_iff_eq, hown] at hid
        exact hnew parent (List.mem_append_left _ hmem) (Option.some.inj hid).symm
      have hfirst : (child.root.parentId == some top.id) = true := by
        simp [hparent child List.mem_cons_self]
      have hrest := ih (fun c hc => hchildren c (List.mem_cons_of_mem _ hc))
        (fun c hc => hparent c (List.mem_cons_of_mem _ hc))
        fun n hn => hnew n (List.mem_append_right _ hn)
      rw [preorderAll, List.filter_append, preorder_eq, List.filter_cons, if_pos hfirst, hdeep,
        hrest]
      rfl

/-! ## The sequence of a tree -/

variable {snapshot : Snapshot}

theorem IsContainment.contains (htree : tree.IsContainment)
    (hnodes : ∀ n ∈ tree.preorder, n ∈ snapshot.nodes) :
    ∀ n ∈ preorderAll tree.children, snapshot.Contains tree.root n := by
  induction htree with
  | @node root children hparent _ _ ih =>
    intro n hn
    obtain ⟨child, hchild, hin⟩ := mem_preorderAll.1 hn
    have hbelow : ∀ m ∈ child.preorder, m ∈ snapshot.nodes := fun m hm =>
      hnodes m (List.mem_cons_of_mem _ (mem_preorderAll.2 ⟨child, hchild, hm⟩))
    have htop : snapshot.Contains root child.root :=
      .child (hnodes root List.mem_cons_self) (hbelow _ child.root_mem_preorder)
        (hparent child hchild)
    rw [preorder_eq] at hin
    rcases List.mem_cons.1 hin with rfl | hdeep
    · exact htop
    · exact htop.trans (ih child hchild hbelow n hdeep)

theorem IsSubtree.mem_of_contains (h : IsSubtree sub tree) (htree : tree.IsContainment)
    (hclosed : tree.IsClosed) (hnodes : snapshot.nodes = tree.preorder) {n : Node}
    (hn : snapshot.Contains sub.root n) : n ∈ preorderAll sub.children := by
  rw [← h.filter_hangsIn htree hclosed]
  generalize htop : sub.root = top at hn
  induction hn with
  | child _ hnode hid =>
    subst htop
    exact List.mem_filter.2 ⟨hnodes ▸ hnode, hangsIn_eq_true_iff.2 ⟨_, sub.root_mem_preorder, hid⟩⟩
  | deeper _ hnode hid ih =>
    rw [h.filter_hangsIn htree hclosed] at ih
    refine List.mem_filter.2 ⟨hnodes ▸ hnode, hangsIn_eq_true_iff.2 ⟨_, ?_, hid⟩⟩
    rw [preorder_eq]
    exact List.mem_cons_of_mem _ ih

theorem IsSubtree.childrenOf_eq (h : IsSubtree sub tree) (htree : tree.IsContainment)
    (hclosed : tree.IsClosed) (hsub : sub.IsClosed) (hnodes : snapshot.nodes = tree.preorder) :
    snapshot.childrenOf sub.root.id = sub.children.map root := by
  -- to name the top of the subtree is to hang in the subtree
  have hnarrow : ∀ n, (n.parentId == some sub.root.id) = true → sub.hangsIn n = true :=
    fun n hn => hangsIn_eq_true_iff.2 ⟨_, sub.root_mem_preorder, beq_iff_eq.1 hn⟩
  rw [Snapshot.childrenOf, hnodes, ← filter_parentId (h.isContainment htree) hsub,
    ← h.filter_hangsIn htree hclosed, List.filter_filter]
  refine List.filter_congr fun n _ => ?_
  cases hn : n.parentId == some sub.root.id with
  | false => rfl
  | true => rw [hnarrow n hn, Bool.and_self]

theorem IsSubtree.isClosed (h : IsSubtree sub tree) (htree : tree.IsContainment)
    (hclosed : tree.IsClosed) : sub.IsClosed := by
  induction h with
  | refl => exact hclosed
  | @child tree child hchild _ ih =>
    obtain ⟨root, children⟩ := tree
    have hbelow : child.IsContainment := by
      cases htree with
      | node _ _ hchildren => exact hchildren child hchild
    exact ih hbelow (hclosed.of_child htree hchild)

end NodeTree

/-- The nodes of a snapshot come in preorder: those that a node contains are a block right after it,
    and the children of a node come in their order. -/
structure Snapshot.IsPreorder (snapshot : Snapshot) : Prop where
  block : ∀ before node after, snapshot.nodes = before ++ node :: after →
    ∃ below rest, after = below ++ rest ∧ ∀ other, snapshot.Contains node other ↔ other ∈ below
  siblings : ∀ parent ∈ snapshot.nodes,
    (snapshot.childrenOf parent.id).Pairwise parent.IsBefore

/-- A tree that is written down node by node without repetition gives a preorder. -/
theorem NodeTree.IsContainment.isPreorder {tree : NodeTree} {snapshot : Snapshot}
    (htree : tree.IsContainment) (hclosed : tree.IsClosed)
    (hnodes : snapshot.nodes = tree.preorder) : snapshot.IsPreorder where
  block := by
    intro before n after hsplit
    obtain ⟨children, rest, hsub, hafter⟩ := exists_isSubtree tree (hnodes ▸ hsplit)
    refine ⟨preorderAll children, rest, hafter, fun other => ⟨fun h => ?_, fun h => ?_⟩⟩
    · exact hsub.mem_of_contains htree hclosed hnodes h
    · exact (hsub.isContainment htree).contains
        (fun m hm => hnodes ▸ hsub.mem_preorder hm) other h
  siblings := by
    intro parent hparent
    obtain ⟨before, after, hsplit⟩ := List.append_of_mem hparent
    obtain ⟨children, rest, hsub, -⟩ := exists_isSubtree tree (hnodes ▸ hsplit)
    have hchildren : snapshot.childrenOf parent.id = children.map NodeTree.root :=
      hsub.childrenOf_eq htree hclosed (hsub.isClosed htree hclosed) hnodes
    rw [hchildren]
    cases hsub.isContainment htree with
    | node _ horder _ => exact List.pairwise_map.2 horder

end SourceOutline
