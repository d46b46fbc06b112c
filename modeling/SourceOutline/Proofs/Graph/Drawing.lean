import Mathlib.Data.Bool.AllAny
import Mathlib.Data.List.Forall2
import SourceOutline.Graph.Tree
import SourceOutline.Proofs.Graph.Unfolding
import SourceOutline.Proofs.Text.Decimal

set_option autoImplicit false

/-! # The drawing of a tree

The drawing of a graph looks for the latest earlier node with the parent's id and collects the
nodes that hang under each. On nodes of which each comes after its parent that finds the tree to
which they unfold (`Snapshot.toTree_eq`), whose rows come in preorder. So a drawing has one line for
each node, and a line is indented by four columns for each ancestor of its node. Since what stands
between a node and its parent is deeper than the parent, the parent is on the nearest earlier line
that is one level shallower (`NodeTree.nearest_lineages`). -/

namespace SourceOutline

namespace NodeTree

/-! ## Ancestors -/

mutual

/-- The nodes of a tree with their ancestors, where those of its top are given. -/
def lineages (above : List Node) : NodeTree → List (Node × List Node)
  | .node root children => (root, above) :: lineagesAll (root :: above) children

/-- The same for trees, one after another. -/
def lineagesAll (above : List Node) : List NodeTree → List (Node × List Node)
  | [] => []
  | tree :: rest => tree.lineages above ++ lineagesAll above rest

end

mutual

theorem map_fst_lineages (above : List Node) :
    ∀ tree : NodeTree, (tree.lineages above).map Prod.fst = tree.preorder
  | .node root children => by
    rw [lineages, preorder, List.map_cons, map_fst_lineagesAll (root :: above) children]

theorem map_fst_lineagesAll (above : List Node) :
    ∀ trees : List NodeTree, (lineagesAll above trees).map Prod.fst = preorderAll trees
  | [] => rfl
  | tree :: rest => by
    rw [lineagesAll, preorderAll, List.map_append, map_fst_lineages above tree,
      map_fst_lineagesAll above rest]

end

theorem exists_lineages_eq {tree : NodeTree} {before after : List Node} {n : Node}
    (above : List Node) (h : tree.preorder = before ++ n :: after) :
    ∃ start x rest, tree.lineages above = start ++ x :: rest ∧ before = start.map Prod.fst ∧
      n = x.1 := by
  rw [← map_fst_lineages above] at h
  obtain ⟨start, rest, hsplit, hstart, hrest⟩ := List.map_eq_append_iff.1 h
  obtain ⟨x, others, rfl, hx, -⟩ := List.map_eq_cons_iff.1 hrest
  exact ⟨start, x, others, hsplit, hstart.symm, hx.symm⟩

theorem mem_lineagesAll {above : List Node} {trees : List NodeTree} {x : Node × List Node} :
    x ∈ lineagesAll above trees ↔ ∃ tree ∈ trees, x ∈ tree.lineages above := by
  induction trees with
  | nil => simp [lineagesAll]
  | cons tree rest ih => simp [lineagesAll, ih]

mutual

/-- No node of a tree has fewer ancestors than its top. -/
theorem length_le_of_mem_lineages {above : List Node} {x : Node × List Node} :
    ∀ tree : NodeTree, x ∈ tree.lineages above → above.length ≤ x.2.length
  | .node root children, h => by
    rcases List.mem_cons.1 h with rfl | hbelow
    · exact Nat.le_refl _
    · exact Nat.le_of_succ_le (length_le_of_mem_lineagesAll children hbelow)

theorem length_le_of_mem_lineagesAll {above : List Node} {x : Node × List Node} :
    ∀ trees : List NodeTree, x ∈ lineagesAll above trees → above.length ≤ x.2.length
  | [], h => absurd h List.not_mem_nil
  | tree :: rest, h => by
    rcases List.mem_append.1 h with hfirst | hrest
    · exact length_le_of_mem_lineages tree hfirst
    · exact length_le_of_mem_lineagesAll rest hrest

end

/-- A node has its parent before it, and everything in between has more ancestors than the
    parent. -/
def HasNearest (before : List (Node × List Node)) (above : List Node) : Prop :=
  ∃ earlier parent outer between, before = earlier ++ (parent, outer) :: between ∧
    above = parent :: outer ∧ ∀ x ∈ between, outer.length < x.2.length

theorem HasNearest.append_left {before : List (Node × List Node)} {above : List Node}
    (h : HasNearest before above) (more : List (Node × List Node)) :
    HasNearest (more ++ before) above := by
  obtain ⟨earlier, parent, outer, between, rfl, habove, hbetween⟩ := h
  exact ⟨more ++ earlier, parent, outer, between, (List.append_assoc _ _ _).symm, habove, hbetween⟩

mutual

/-- The nearest earlier node of a tree that is one level shallower than a node is its parent. -/
theorem nearest_lineages {above : List Node} {before after : List (Node × List Node)}
    {x : Node × List Node} :
    ∀ tree : NodeTree, tree.lineages above = before ++ x :: after →
      (before = [] ∧ x.2 = above) ∨ HasNearest before x.2
  | .node root children, h => by
    cases before with
    | nil =>
      obtain ⟨rfl, -⟩ := List.cons.inj h
      exact .inl ⟨rfl, rfl⟩
    | cons first before =>
      obtain ⟨rfl, hrest⟩ := List.cons.inj h
      refine .inr ?_
      rcases nearest_lineagesAll children hrest with habove | hnearest
      · -- the node is right below the top, and what comes between is below the top too
        refine ⟨[], root, above, before, rfl, habove, fun y hy => ?_⟩
        have hy : y ∈ lineagesAll (root :: above) children := by
          rw [hrest]
          exact List.mem_append_left _ hy
        exact length_le_of_mem_lineagesAll children hy
      · exact hnearest.append_left [(root, above)]

theorem nearest_lineagesAll {above : List Node} {before after : List (Node × List Node)}
    {x : Node × List Node} :
    ∀ trees : List NodeTree, lineagesAll above trees = before ++ x :: after →
      x.2 = above ∨ HasNearest before x.2
  | [], h => by simp [lineagesAll] at h
  | tree :: rest, h => by
    rw [lineagesAll] at h
    rcases List.append_eq_append_iff.1 h with ⟨between, rfl, hlater⟩ | ⟨between, htree, hx⟩
    · exact (nearest_lineagesAll rest hlater).imp_right fun h => h.append_left _
    · cases between with
      | nil =>
        have hbefore : before = tree.lineages above := by simpa using htree.symm
        have hlater : lineagesAll above rest = [] ++ x :: after := hx.symm
        rw [hbefore, ← List.append_nil (tree.lineages above)]
        exact (nearest_lineagesAll rest hlater).imp_right fun h => h.append_left _
      | cons first between =>
        obtain ⟨rfl, -⟩ := List.cons.inj hx
        exact (nearest_lineages tree htree).imp_left And.right

end

end NodeTree

/-- The nodes of an unfolded tree have those ancestors if its top has the given ones. -/
theorem Snapshot.Unfolds.hasAncestors {snapshot : Snapshot} {tree : NodeTree}
    (h : snapshot.Unfolds tree) : ∀ above, snapshot.HasAncestors tree.root above →
      ∀ x ∈ tree.lineages above, snapshot.HasAncestors x.1 x.2 := by
  induction h with
  | @node root children _ hchildren _ ih =>
    intro above htop x hx
    rcases List.mem_cons.1 hx with rfl | hbelow
    · exact htop
    · obtain ⟨child, hchild, hin⟩ := NodeTree.mem_lineagesAll.1 hbelow
      have hmem : child.root ∈ snapshot.childrenOf root.id :=
        hchildren ▸ List.mem_map_of_mem hchild
      obtain ⟨hnode, hparent⟩ := Snapshot.mem_childrenOf.1 hmem
      exact ih child hchild _ (.child htop hnode hparent) x hin

theorem Snapshot.Unfolds.hangBelow {snapshot : Snapshot} {root : Node} {children : List NodeTree}
    (h : snapshot.Unfolds (.node root children)) (hroot : root.parentId = none)
    (hdistinct : ((NodeTree.node root children).preorder.map (·.id)).Nodup) :
    HangBelow [root.id] (NodeTree.preorderAll children) := by
  change HangBelow ([root].map (·.id)) _
  refine .of_exists_parent hdistinct fun before n after hsplit => ?_
  have hpreorder : (NodeTree.node root children).preorder = (root :: before) ++ n :: after := by
    rw [NodeTree.preorder, hsplit]
    rfl
  obtain ⟨start, x, rest, htree, hstart, rfl⟩ := NodeTree.exists_lineages_eq [] hpreorder
  have hx := h.hasAncestors [] (.root (h.mem_nodes _ List.mem_cons_self) hroot) x (by simp [htree])
  obtain ⟨rfl, -⟩ | ⟨earlier, parent, outer, between, hbefore, habove, -⟩ :=
    NodeTree.nearest_lineages _ htree
  · cases hstart
  · rw [habove] at hx
    cases hx with
    | child _ _ hid =>
      have hin : parent ∈ root :: before := by simp [hstart, hbefore]
      exact ⟨parent, by simpa using hin, hid⟩

/-! ## Finding the tree again -/

namespace NodeTree

mutual

/-- The tree as it is drawn. -/
def drawn : NodeTree → LabelTree
  | .node root children => .node root.treeLabel (drawnAll children)

/-- The trees as they are drawn. -/
def drawnAll : List NodeTree → List LabelTree
  | [] => []
  | tree :: rest => tree.drawn :: drawnAll rest

end

end NodeTree

theorem latestIndex?_lt {id : String} {earlier : List Node} {position : Nat}
    (h : latestIndex? id earlier = some position) : position < earlier.length := by
  induction earlier with
  | nil => cases h
  | cons n earlier ih =>
    unfold latestIndex? at h
    split at h
    case isTrue =>
      cases h
      simp
    case isFalse => exact Nat.lt_succ_of_lt (ih h)

theorem latestIndex?_inj {a b : String} {earlier : List Node} {position : Nat}
    (ha : latestIndex? a earlier = some position) (hb : latestIndex? b earlier = some position) :
    a = b := by
  induction earlier with
  | nil => cases ha
  | cons n earlier ih =>
    unfold latestIndex? at ha hb
    split at ha <;> split at hb
    case isTrue.isTrue hna hnb => exact hna.symm.trans hnb
    case isTrue.isFalse =>
      cases ha
      exact absurd (latestIndex?_lt hb) (Nat.lt_irrefl _)
    case isFalse.isTrue =>
      cases hb
      exact absurd (latestIndex?_lt ha) (Nat.lt_irrefl _)
    case isFalse.isFalse => exact ih ha hb

theorem exists_latestIndex?_iff {id : String} {earlier : List Node} :
    (∃ position, latestIndex? id earlier = some position) ↔ id ∈ earlier.map (·.id) := by
  induction earlier with
  | nil => simp [latestIndex?]
  | cons n earlier ih =>
    unfold latestIndex?
    by_cases hid : n.id = id
    · simp [hid]
    · rw [if_neg hid, ih, List.map_cons, List.mem_cons, or_iff_right (Ne.symm hid)]

/-- Nodes that hang below earlier ones (latest first) all find their place, and at the position of
    an earlier id there hangs what names that id. -/
theorem branchesAfter_eq {earlier later : List Node}
    (h : HangBelow (earlier.map (·.id)) later) :
    ∃ branches, branchesAfter earlier later = .ok branches ∧ branches.map Branch.node = later ∧
      ∀ id position, latestIndex? id earlier = some position →
        treesUnder position branches = NodeTree.drawnAll (NodeTree.under id later) := by
  induction later generalizing earlier with
  | nil => exact ⟨[], rfl, rfl, fun _ _ _ => rfl⟩
  | cons n later ih =>
    cases h with
    | @cons _ _ _ parent hnew hparent hknown hrest =>
      obtain ⟨place, hplace⟩ := exists_latestIndex?_iff.2 hknown
      have hnext : HangBelow ((n :: earlier).map (·.id)) later := hrest
      obtain ⟨branches, hlater, hnodes, hunder⟩ := ih hnext
      refine ⟨{ index := earlier.length, parent := place, node := n } :: branches, ?_, ?_, ?_⟩
      · simp [branchesAfter, hparent, hplace, hlater, bind, Except.bind, pure, Except.pure]
      · rw [List.map_cons, hnodes]
      · intro id position hposition
        have hself : latestIndex? n.id (n :: earlier) = some earlier.length := if_pos rfl
        have hother : latestIndex? id (n :: earlier) = some position := by
          rw [latestIndex?, if_neg, hposition]
          rintro rfl
          exact hnew (exists_latestIndex?_iff.1 ⟨position, hposition⟩)
        unfold treesUnder NodeTree.under
        simp only [hunder _ _ hself, hunder _ _ hother]
        -- the node hangs at the position if and only if it names the id
        by_cases hid : parent = id
        · subst hid
          obtain rfl := Option.some.inj (hplace.symm.trans hposition)
          rw [if_pos rfl, if_pos hparent]
          rfl
        · have hne : place ≠ position := by
            rintro rfl
            exact hid (latestIndex?_inj hplace hposition)
          rw [if_neg hne, if_neg]
          rw [hparent]
          exact fun heq => hid (Option.some.inj heq)

/-- The drawing of nodes that hang below a root is the tree of what hangs under it. -/
theorem Snapshot.toTree_eq {snapshot : Snapshot} {root : Node} {rest : List Node}
    (hnodes : snapshot.nodes = root :: rest) (hrest : HangBelow [root.id] rest) :
    snapshot.toTree = .ok (NodeTree.node root (NodeTree.under root.id rest)).drawn := by
  have hearlier : HangBelow ([root].map (·.id)) rest := hrest
  obtain ⟨branches, hbranches, hmap, hunder⟩ := branchesAfter_eq hearlier
  -- no later node takes the id of the root
  have hfind : branches.reverse.find? (·.node.id == root.id) = none := by
    refine List.find?_eq_none.2 fun branch hbranch hid => ?_
    have hin : branch.node ∈ rest :=
      hmap ▸ List.mem_map_of_mem (List.mem_reverse.1 hbranch)
    refine hrest.id_notMem _ hin ?_
    rw [beq_iff_eq.1 hid]
    exact List.mem_singleton_self _
  have hroot : latestIndex? root.id [root] = some 0 := if_pos rfl
  unfold Snapshot.toTree
  rw [hnodes]
  simp only [hbranches, bind, Except.bind, hfind, Option.getD_none, List.drop_zero,
    hunder _ _ hroot]
  rfl

/-! ## Lines -/

/-- The pieces of which guides are made, four columns wide. -/
def guidePieces : List (List Char) :=
  ["├── ".toList, "└── ".toList, "│   ".toList, "    ".toList]

/-- What leads to a label at a level: one piece for each level above. -/
inductive IsGuide : Nat → List Char → Prop
  | nil : IsGuide 0 []
  | append {level : Nat} {guide piece : List Char} (h : IsGuide level guide)
      (hpiece : piece ∈ guidePieces) : IsGuide (level + 1) (guide ++ piece)

theorem columnsAfter_eq_length {text : List Char}
    (h : ∀ c ∈ text, isJoiner c = false ∧ isPictureSelector c = false ∧ columnsOf c = 1) :
    ∀ last, columnsAfter last text = text.length := by
  induction text with
  | nil => exact fun _ => rfl
  | cons c rest ih =>
    intro last
    obtain ⟨hjoiner, hselector, hcolumns⟩ := h c List.mem_cons_self
    have hrest := ih (fun x hx => h x (List.mem_cons_of_mem _ hx)) (some c)
    unfold columnsAfter
    simp only [hjoiner, hselector, hcolumns, hrest, Bool.false_eq_true, if_false, Nat.one_ne_zero,
      List.length_cons]
    exact Nat.add_comm _ _

namespace IsGuide

variable {level : Nat} {guide : List Char}

theorem length_eq (h : IsGuide level guide) : guide.length = 4 * level := by
  induction h with
  | nil => rfl
  | @append level guide piece _ hpiece ih =>
    have hfour : ∀ piece ∈ guidePieces, piece.length = 4 := by decide
    rw [List.length_append, ih, hfour piece hpiece]
    omega

theorem mem_flatten (h : IsGuide level guide) : ∀ c ∈ guide, c ∈ guidePieces.flatten := by
  induction h with
  | nil => exact fun c hc => absurd hc List.not_mem_nil
  | append _ hpiece ih =>
    intro c hc
    rcases List.mem_append.1 hc with hearlier | hlast
    · exact ih c hearlier
    · exact List.mem_flatten.2 ⟨_, hpiece, hlast⟩

theorem textColumns_eq (h : IsGuide level guide) : textColumns guide = 4 * level := by
  have hone : ∀ c ∈ guidePieces.flatten,
      isJoiner c = false ∧ isPictureSelector c = false ∧ columnsOf c = 1 :=
    List.all_iff_forall_prop.1 (by decide +kernel)
  rw [textColumns, columnsAfter_eq_length fun c hc => hone c (h.mem_flatten c hc), h.length_eq]

theorem break_notMem (h : IsGuide level guide) : '\n' ∉ guide := by
  intro hin
  exact absurd (h.mem_flatten _ hin) (by decide)

end IsGuide

/-! ## Texts on one line -/

/-- A text without control characters; among these are the line breaks and the tab. -/
def IsUnbroken (text : String) : Prop :=
  ∀ c ∈ text.toList, 32 ≤ c.toNat

instance (text : String) : Decidable (IsUnbroken text) :=
  decidable_of_iff _ List.all_iff_forall_prop

theorem isUnbroken_toString (n : Int) : IsUnbroken (toString n) := by
  intro c hc
  rcases eq_dash_or_isDigit hc with rfl | hdigit
  · decide
  · simp only [Char.isDigit, Bool.and_eq_true, decide_eq_true_eq] at hdigit
    have h48 : 48 ≤ c.toNat := hdigit.1
    omega

namespace Node

variable {n : Node}

theorem isUnbroken_kind (h : n.isDefinition = true) : IsUnbroken n.kind := by
  have hkind : n.kind ∈ definitionKinds := by simpa [isDefinition] using h
  have hall : ∀ kind ∈ definitionKinds, IsUnbroken kind := by decide
  exact hall n.kind hkind

theorem mem_label_of_mem_treeText {c : Char} (h : c ∈ n.treeText.toList) :
    c ∈ n.label.toList ∨ 32 ≤ c.toNat := by
  have hspaces : IsUnbroken "  " := by decide
  have hspace : IsUnbroken " " := by decide
  have hdash : IsUnbroken "-" := by decide
  have hnone : IsUnbroken "None" := by decide
  unfold treeText at h
  split at h
  case isFalse => exact .inl h
  case isTrue hdefinition =>
    simp only [String.toList_append, List.mem_append, or_assoc] at h
    rcases h with hlabel | hin | hin | hin | hin | hin | hin
    · exact .inl hlabel
    · exact .inr (hspaces c hin)
    · exact .inr (isUnbroken_kind hdefinition c hin)
    · exact .inr (hspace c hin)
    · exact .inr (isUnbroken_toString _ c hin)
    · exact .inr (hdash c hin)
    · cases hend : n.endLine with
      | none =>
        rw [hend] at hin
        exact .inr (hnone c hin)
      | some last =>
        rw [hend] at hin
        exact .inr (isUnbroken_toString last c hin)

theorem isUnbroken_treeText (h : IsUnbroken n.label) : IsUnbroken n.treeText := fun c hc =>
  (mem_label_of_mem_treeText hc).elim (h c) fun hlow => hlow

/-- The text of a node as it stands in its row: some control characters are dropped, and spaces
    stand in place of tabs. -/
def treeRow (node : Node) : List Char :=
  expandTabs (node.treeText.toList.filter fun c => !isDroppedControl c)

theorem break_notMem_treeText (h : '\n' ∉ n.label.toList) : '\n' ∉ n.treeText.toList := fun hin =>
  (mem_label_of_mem_treeText hin).elim h (absurd · (by decide))

/-- A node whose label holds no line break has one row. -/
theorem treeLabel_eq (h : '\n' ∉ n.label.toList) : n.treeLabel = [n.treeRow] := by
  have hkept : '\n' ∉ n.treeText.toList.filter fun c => !isDroppedControl c := fun hin =>
    break_notMem_treeText h (List.mem_of_mem_filter hin)
  rw [treeLabel, piecesBetween_of_notMem hkept, List.map_singleton, treeRow]

theorem break_notMem_treeRow (h : '\n' ∉ n.label.toList) : '\n' ∉ n.treeRow := by
  intro hin
  rcases mem_expandTabs hin with hspace | hkept
  · exact absurd hspace (by decide)
  · exact break_notMem_treeText h (List.mem_of_mem_filter hkept)

/-- A node whose label is unbroken shows its text as it is. -/
theorem treeRow_eq (h : IsUnbroken n.label) : n.treeRow = n.treeText.toList := by
  have htext := isUnbroken_treeText h
  have hkept : n.treeText.toList.filter (fun c => !isDroppedControl c) = n.treeText.toList := by
    refine List.filter_eq_self.2 fun c hc => ?_
    have hlow : ∀ k ∈ [7, 8, 11, 12, 13], k < 32 := by decide
    simp only [isDroppedControl, List.contains_eq_mem, Bool.not_eq_true', decide_eq_false_iff_not]
    exact fun hmem => absurd (hlow _ hmem) (Nat.not_lt.2 (htext c hc))
  have htab : '\t' ∉ n.treeText.toList := fun hmem => absurd (htext _ hmem) (by decide)
  rw [treeRow, hkept, expandTabs, piecesBetween_of_notMem htab, expandPieces]

end Node

/-! ## Rows -/

/-- A line shows a node with its ancestors: a guide for each of them, and then the row of the
    node. -/
def IsLineOf (x : Node × List Node) (line : List Char) : Prop :=
  ∃ guide, IsGuide x.2.length guide ∧ line = guide ++ x.1.treeRow

theorem IsLineOf.break_notMem {x : Node × List Node} {line : List Char} (h : IsLineOf x line)
    (hlabel : '\n' ∉ x.1.label.toList) : '\n' ∉ line := by
  obtain ⟨guide, hguide, rfl⟩ := h
  intro hin
  rcases List.mem_append.1 hin with hleft | hright
  · exact hguide.break_notMem hleft
  · exact Node.break_notMem_treeRow hlabel hright

namespace NodeTree

mutual

/-- The rows of a tree show its nodes one by one, if their labels hold no line breaks. -/
theorem forall₂_rows {above : List Node} {first other : List Char} :
    ∀ tree : NodeTree, (∀ n ∈ tree.preorder, '\n' ∉ n.label.toList) →
      IsGuide above.length first → IsGuide above.length other →
      List.Forall₂ IsLineOf (tree.lineages above) (tree.drawn.rows first other)
  | .node root children, hplain, hfirst, hother => by
    rw [drawn, LabelTree.rows, Node.treeLabel_eq (hplain root List.mem_cons_self)]
    exact .cons ⟨first, hfirst, rfl⟩
      (forall₂_rowsBelow children (fun n hn => hplain n (List.mem_cons_of_mem _ hn)) hother)

theorem forall₂_rowsBelow {root : Node} {above : List Node} {guide : List Char} :
    ∀ trees : List NodeTree, (∀ n ∈ preorderAll trees, '\n' ∉ n.label.toList) →
      IsGuide above.length guide → List.Forall₂ IsLineOf (lineagesAll (root :: above) trees)
        (LabelTree.rowsBelow guide (drawnAll trees))
  | [], _, _ => .nil
  | [tree], hplain, hguide => by
    have hfirst : IsGuide (root :: above).length (guide ++ "└── ".toList) :=
      hguide.append (by decide)
    have hother : IsGuide (root :: above).length (guide ++ "    ".toList) :=
      hguide.append (by decide)
    rw [lineagesAll, lineagesAll, List.append_nil]
    exact forall₂_rows tree (fun n hn => hplain n (List.mem_append_left _ hn)) hfirst hother
  | tree :: next :: rest, hplain, hguide => by
    have hfirst : IsGuide (root :: above).length (guide ++ "├── ".toList) :=
      hguide.append (by decide)
    have hother : IsGuide (root :: above).length (guide ++ "│   ".toList) :=
      hguide.append (by decide)
    have htree := forall₂_rows tree (fun n hn => hplain n (List.mem_append_left _ hn)) hfirst hother
    exact List.rel_append htree
      (forall₂_rowsBelow (next :: rest) (fun n hn => hplain n (List.mem_append_right _ hn)) hguide)

end

end NodeTree

/-! ## Drawings -/

/-- A snapshot is drawn with one line for each node, in some order. A line is indented by four
    columns for each ancestor of its node, and the parent of a node is on the nearest earlier line
    that is one level shallower. -/
structure Snapshot.IsDrawnInOrder (snapshot : Snapshot) (order : List Node)
    (lines : List (List Char)) : Prop where
  order_perm : order.Perm snapshot.nodes
  renderTree_eq : snapshot.renderTree = .ok (String.ofList (lines.flatMap (· ++ ['\n'])))
  shows : List.Forall₂ (fun node line => '\n' ∉ line ∧ ∃ above guide,
    snapshot.HasAncestors node above ∧ IsGuide above.length guide ∧
    textColumns guide = 4 * above.length ∧ line = guide ++ node.treeRow)
    order lines
  nearest : ∀ before node after parent outer, order = before ++ node :: after →
    snapshot.HasAncestors node (parent :: outer) →
    ∃ earlier between, before = earlier ++ parent :: between ∧
      ∀ other ∈ between, ∀ above, snapshot.HasAncestors other above → outer.length < above.length

/-- A snapshot is drawn with one line for each node, in order. A line is indented by four columns
    for each ancestor of its node, and the parent of a node is on the nearest earlier line that is
    one level shallower. -/
structure Snapshot.IsDrawnAs (snapshot : Snapshot) (lines : List (List Char)) : Prop where
  renderTree_eq : snapshot.renderTree = .ok (String.ofList (lines.flatMap (· ++ ['\n'])))
  shows : List.Forall₂ (fun node line => '\n' ∉ line ∧ ∃ above guide,
    snapshot.HasAncestors node above ∧ IsGuide above.length guide ∧
    textColumns guide = 4 * above.length ∧ line = guide ++ node.treeText.toList)
    snapshot.nodes lines
  nearest : ∀ before node after parent outer, snapshot.nodes = before ++ node :: after →
    snapshot.HasAncestors node (parent :: outer) →
    ∃ earlier between, before = earlier ++ parent :: between ∧
      ∀ other ∈ between, ∀ above, snapshot.HasAncestors other above → outer.length < above.length

/-- A drawing in the order of the nodes shows their texts, if the labels are unbroken. -/
theorem Snapshot.IsDrawnInOrder.isDrawnAs {snapshot : Snapshot} {lines : List (List Char)}
    (h : snapshot.IsDrawnInOrder snapshot.nodes lines)
    (hlabels : ∀ n ∈ snapshot.nodes, IsUnbroken n.label) : snapshot.IsDrawnAs lines where
  renderTree_eq := h.renderTree_eq
  shows := by
    refine ((List.forall₂_and_left _ _).2 ⟨hlabels, h.shows⟩).imp fun n line hline => ?_
    rw [← Node.treeRow_eq hline.1]
    exact hline.2
  nearest := h.nearest

/-- If the tree of a snapshot is the one that its root unfolds to, the drawing shows its nodes in
    preorder. -/
theorem Snapshot.Unfolds.isDrawnInOrder {snapshot : Snapshot} {tree : NodeTree}
    (h : snapshot.Unfolds tree) (hroot : tree.root.parentId = none)
    (hdistinct : snapshot.ids.Nodup) (hperm : tree.preorder.Perm snapshot.nodes)
    (htree : snapshot.toTree = .ok tree.drawn)
    (hlabels : ∀ n ∈ snapshot.nodes, '\n' ∉ n.label.toList) :
    snapshot.IsDrawnInOrder tree.preorder (tree.drawn.rows [] []) := by
  have hancestors := h.hasAncestors [] (.root (h.mem_nodes _ tree.root_mem_preorder) hroot)
  refine ⟨hperm, ?_, ?_, ?_⟩
  · rw [Snapshot.renderTree, htree]
    rfl
  · have hguide : IsGuide ([] : List Node).length [] := .nil
    have hlines :=
      NodeTree.forall₂_rows tree (fun n hn => hlabels n (h.mem_nodes n hn)) hguide hguide
    rw [← NodeTree.map_fst_lineages [] tree, List.forall₂_map_left_iff]
    refine ((List.forall₂_and_left _ _).2 ⟨hancestors, hlines⟩).imp fun x line hline => ?_
    obtain ⟨habove, hshown⟩ := hline
    refine ⟨hshown.break_notMem (hlabels x.1 habove.mem), ?_⟩
    obtain ⟨guide, hguide, rfl⟩ := hshown
    exact ⟨x.2, guide, habove, hguide, hguide.textColumns_eq, rfl⟩
  · intro before node after parent outer hsplit habove
    obtain ⟨start, x, others, hsplits, rfl, rfl⟩ := NodeTree.exists_lineages_eq [] hsplit
    have hin : ∀ y ∈ start ++ x :: others, snapshot.HasAncestors y.1 y.2 :=
      fun y hy => hancestors y (hsplits ▸ hy)
    have hx := (hin x (List.mem_append_right _ List.mem_cons_self)).unique hdistinct habove
    rcases NodeTree.nearest_lineages tree hsplits with ⟨-, hnone⟩ | hnearest
    · cases hnone.symm.trans hx
    · obtain ⟨earlier, p, o, between, rfl, hparent, hbetween⟩ := hnearest
      cases hparent.symm.trans hx
      refine ⟨earlier.map Prod.fst, between.map Prod.fst, List.map_append, ?_⟩
      intro other hother above hlevel
      obtain ⟨y, hy, rfl⟩ := List.mem_map.1 hother
      have hyin := hin y (List.mem_append_left _
        (List.mem_append_right _ (List.mem_cons_of_mem _ hy)))
      rw [hlevel.unique hdistinct hyin]
      exact hbetween y hy

/-- A tree that is written down node by node without repetition is drawn in that order. -/
theorem NodeTree.IsContainment.exists_isDrawnAs {tree : NodeTree} {snapshot : Snapshot}
    (htree : tree.IsContainment) (hclosed : tree.IsClosed)
    (hroot : tree.root.parentId = none) (hnodes : snapshot.nodes = tree.preorder)
    (hlabels : ∀ n ∈ snapshot.nodes, IsUnbroken n.label) :
    ∃ lines, snapshot.IsDrawnAs lines := by
  have hdistinct : snapshot.ids.Nodup := by
    rw [Snapshot.ids, hnodes]
    exact hclosed.distinct
  have hunfolds := htree.unfolds hclosed hnodes
  have hdrawn : snapshot.toTree = .ok tree.drawn := by
    obtain ⟨root, children⟩ := tree
    have hbelow := hunfolds.hangBelow hroot hclosed.distinct
    have hsame := (Snapshot.unfolds_under hnodes hroot hbelow).unique hunfolds rfl
    rw [Snapshot.toTree_eq hnodes hbelow, hsame]
  have hlines : snapshot.IsDrawnInOrder snapshot.nodes (tree.drawn.rows [] []) := by
    rw [hnodes]
    exact hunfolds.isDrawnInOrder hroot hdistinct (hnodes ▸ .refl _) hdrawn
      fun n hn hin => absurd (hlabels n hn _ hin) (by decide)
  exact ⟨_, hlines.isDrawnAs hlabels⟩

end SourceOutline
