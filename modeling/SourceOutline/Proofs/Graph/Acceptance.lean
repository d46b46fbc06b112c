import SourceOutline.Proofs.Graph.Growth

set_option autoImplicit false

/-! # What a builder accepts

A builder looks at each node by itself: at the ids that it has, at whether the place of the root has
been claimed, and at the range of the node. Together these checks say no less and no more than that
the nodes are in the order of a tree (`IsInTreeOrder`), a condition that speaks of the list of nodes
only. It can be checked one node at a time (`isInTreeOrder_append_singleton_iff`), so a builder that
has been refused nothing takes a node if and only if its nodes stay in the order of a tree.

A refused node can leave a trace, since one without a parent claims the place of the root before its
range is looked at. Then a builder takes less than it could, but never more: what it has taken is in
the order of a tree after any operations (`IsSound.run`). -/

namespace SourceOutline

/-! ## Nodes in the order of a tree -/

/-- Nodes that a tree could list: no id comes twice, the first node has no parent, the parent of any
    other node comes before it, and no range ends before it starts. -/
structure IsInTreeOrder (nodes : List Node) : Prop where
  ids_nodup : (nodes.map (·.id)).Nodup
  first_parentId : ∀ first rest, nodes = first :: rest → first.parentId = none
  exists_parent : ∀ before node after, nodes = before ++ node :: after → before ≠ [] →
    ∃ parent ∈ before, node.parentId = some parent.id
  range_le : ∀ node ∈ nodes, ∀ last, node.endLine = some last → node.startLine ≤ last

/-- A node finds its place after others: as the root if there are none, else below one of them. -/
def HasPlace (nodes : List Node) (node : Node) : Prop :=
  (nodes = [] ∧ node.parentId = none) ∨ ∃ parent ∈ nodes, node.parentId = some parent.id

theorem Node.isReversed_eq_false_iff {node : Node} :
    node.isReversed = false ↔ ∀ last, node.endLine = some last → node.startLine ≤ last := by
  cases hend : node.endLine with
  | none => simp [isReversed, hend]
  | some last => simp [isReversed, hend]

namespace IsInTreeOrder

variable {nodes : List Node} {node : Node}

theorem nil : IsInTreeOrder [] where
  ids_nodup := .nil
  first_parentId := nofun
  exists_parent := fun _ _ _ h => absurd h (by simp)
  range_le := nofun

theorem of_append {others : List Node} (h : IsInTreeOrder (nodes ++ others)) :
    IsInTreeOrder nodes where
  ids_nodup := by
    have hids := h.ids_nodup
    rw [List.map_append] at hids
    exact (List.nodup_append.1 hids).1
  first_parentId := by
    rintro first rest rfl
    exact h.first_parentId first (rest ++ others) rfl
  exists_parent := by
    rintro before node after rfl hbefore
    exact h.exists_parent before node (after ++ others) (by simp) hbefore
  range_le := fun node hnode => h.range_le node (List.mem_append_left _ hnode)

end IsInTreeOrder

/-- Whether nodes are in the order of a tree can be told by looking at the last one after the
    others. -/
theorem isInTreeOrder_append_singleton_iff {nodes : List Node} {node : Node} :
    IsInTreeOrder (nodes ++ [node]) ↔ IsInTreeOrder nodes ∧ node.id ∉ nodes.map (·.id) ∧
      HasPlace nodes node ∧ node.isReversed = false := by
  constructor
  · intro h
    refine ⟨h.of_append, ?_, ?_, ?_⟩
    · have hids := h.ids_nodup
      rw [List.map_append, List.nodup_append] at hids
      exact fun hmem => hids.2.2 _ hmem _ (by simp) rfl
    · cases nodes with
      | nil => exact .inl ⟨rfl, h.first_parentId node [] rfl⟩
      | cons first rest => exact .inr (h.exists_parent (first :: rest) node [] rfl (by simp))
    · exact Node.isReversed_eq_false_iff.2 (h.range_le node (by simp))
  · rintro ⟨h, hnew, hplace, hrange⟩
    constructor
    case ids_nodup =>
      rw [List.map_append, List.map_singleton, List.nodup_append]
      refine ⟨h.ids_nodup, by simp, fun id hid other hother => ?_⟩
      rw [List.mem_singleton.1 hother]
      rintro rfl
      exact hnew hid
    case first_parentId =>
      intro first rest hnodes
      rcases hplace with ⟨rfl, hparent⟩ | ⟨parent, hmem, -⟩
      · rw [← (List.cons.inj hnodes).1]
        exact hparent
      · -- there are earlier nodes, so the first one is the first of them
        cases nodes with
        | nil => exact absurd hmem List.not_mem_nil
        | cons head tail => exact h.first_parentId first tail (by rw [(List.cons.inj hnodes).1])
    case exists_parent =>
      intro before other after hnodes hbefore
      rcases List.eq_nil_or_concat after with rfl | ⟨init, final, rfl⟩
      · obtain ⟨rfl, hlast⟩ := List.append_inj' hnodes rfl
        obtain rfl := (List.cons.inj hlast).1
        rcases hplace with ⟨rfl, -⟩ | hparent
        · exact absurd rfl hbefore
        · exact hparent
      · rw [List.concat_eq_append, ← List.cons_append, ← List.append_assoc] at hnodes
        exact h.exists_parent before other init (List.append_inj' hnodes rfl).1 hbefore
    case range_le =>
      intro other hother
      rcases List.mem_append.1 hother with hearlier | hlast
      · exact h.range_le other hearlier
      · rw [List.mem_singleton.1 hlast]
        exact Node.isReversed_eq_false_iff.1 hrange

/-! ## Taking one node -/

namespace GraphBuilder

variable {builder : GraphBuilder} {node : Node}

theorem rangeFault?_eq_none_iff : rangeFault? node = none ↔ node.isReversed = false := by
  refine ⟨fun h => ?_, rangeFault?_eq_none⟩
  rw [Node.isReversed_eq_false_iff]
  intro last hlast
  simp only [rangeFault?, hlast] at h
  split at h
  case isTrue => cases h
  case isFalse hle => exact Int.not_lt.1 hle

/-- What a builder has taken is in the order of a tree, and with the first node the place of the
    root has been claimed. -/
structure IsSound (builder : GraphBuilder) : Prop where
  order : IsInTreeOrder builder.nodes
  rooted : builder.nodes ≠ [] → builder.rooted = true

/-- Nothing has claimed the place of the root but a node that has been taken. -/
def IsUntouched (builder : GraphBuilder) : Prop :=
  builder.nodes = [] → builder.rooted = false

theorem isSound_empty : ({} : GraphBuilder).IsSound :=
  ⟨.nil, fun h => absurd rfl h⟩

/-- A builder finds no fault with the place of a node if its id is new and its parent has come, or
    if it has none and the place of the root is free. -/
theorem placeFault?_eq_none_iff : builder.placeFault? node = none ↔
    node.id ∉ builder.nodes.map (·.id) ∧
      ((builder.rooted = false ∧ node.parentId = none) ∨
        ∃ parent ∈ builder.nodes, node.parentId = some parent.id) := by
  unfold placeFault?
  cases htaken : builder.has node.id with
  | true =>
    rw [if_pos rfl]
    exact iff_of_false nofun fun h => h.1 (has_eq_true_iff.1 htaken)
  | false =>
    have hnew : node.id ∉ builder.nodes.map (·.id) :=
      fun hmem => Bool.eq_false_iff.1 htaken (has_eq_true_iff.2 hmem)
    rw [if_neg Bool.false_ne_true, and_iff_right hnew]
    cases hparent : node.parentId with
    | none => simp
    | some id =>
      have hknown : (∃ parent ∈ builder.nodes, some id = some parent.id) ↔
          builder.has id = true := by
        simp only [has_eq_true_iff, List.mem_map, Option.some.injEq, eq_comm (a := id)]
      rw [hknown]
      simp

/-- While the place of the root is free, a sound builder has taken nothing. -/
theorem IsSound.nodes_eq_nil (h : builder.IsSound) (hfree : builder.rooted = false) :
    builder.nodes = [] :=
  Decidable.byContradiction fun hne => absurd (hfree.symm.trans (h.rooted hne)) Bool.false_ne_true

/-- What a builder does with a node: it takes it, or it refuses it and keeps its nodes. -/
theorem add_cases (builder : GraphBuilder) (node : Node) :
    (builder.placeFault? node = none ∧ rangeFault? node = none ∧
      builder.add node = ((builder.claim node).push node, none)) ∨
    ((builder.placeFault? node ≠ none ∨ rangeFault? node ≠ none) ∧
      ∃ rooted fault, (builder.rooted = true → rooted = true) ∧
        builder.add node = ({ builder with rooted }, some fault)) := by
  unfold add
  cases hplace : builder.placeFault? node with
  | some fault => exact .inr ⟨.inl nofun, builder.rooted, fault, id, rfl⟩
  | none =>
    cases hrange : rangeFault? node with
    | some fault =>
      exact .inr ⟨.inr nofun, (builder.claim node).rooted, fault,
        fun h => by rw [claim, h, Bool.true_or], rfl⟩
    | none => exact .inl ⟨rfl, rfl, rfl⟩

theorem IsSound.add (h : builder.IsSound) (node : Node) : (builder.add node).1.IsSound := by
  rcases builder.add_cases node with ⟨hplace, hrange, hadd⟩ | ⟨-, rooted, fault, hkept, hadd⟩
  · rw [hadd]
    obtain ⟨hnew, hparent⟩ := placeFault?_eq_none_iff.1 hplace
    have hplaced : HasPlace builder.nodes node :=
      hparent.imp_left fun hroot => ⟨h.nodes_eq_nil hroot.1, hroot.2⟩
    refine ⟨isInTreeOrder_append_singleton_iff.2
      ⟨h.order, hnew, hplaced, rangeFault?_eq_none_iff.1 hrange⟩, fun _ => ?_⟩
    rcases hplaced with ⟨-, hnone⟩ | ⟨parent, hmem, -⟩
    · simp [push, claim, hnone]
    · simp [push, claim, h.rooted (List.ne_nil_of_mem hmem)]
  · rw [hadd]
    exact ⟨h.order, fun hne => hkept (h.rooted hne)⟩

/-- A sound builder that is untouched takes a node if and only if its nodes with this one are in
    the order of a tree. -/
theorem IsSound.add_eq_none_iff (h : builder.IsSound) (huntouched : builder.IsUntouched) :
    (builder.add node).2 = none ↔ IsInTreeOrder (builder.nodes ++ [node]) := by
  have hchecks : (builder.add node).2 = none ↔
      builder.placeFault? node = none ∧ rangeFault? node = none := by
    rcases builder.add_cases node with ⟨hplace, hrange, hadd⟩ | ⟨hfault, _, _, -, hadd⟩
    · rw [hadd]
      exact iff_of_true rfl ⟨hplace, hrange⟩
    · rw [hadd]
      exact iff_of_false nofun fun hnone => hfault.elim (· hnone.1) (· hnone.2)
  have hfree : builder.rooted = false ↔ builder.nodes = [] := ⟨h.nodes_eq_nil, huntouched⟩
  rw [hchecks, placeFault?_eq_none_iff, rangeFault?_eq_none_iff, hfree,
    isInTreeOrder_append_singleton_iff, and_iff_right h.order, HasPlace, and_assoc]

theorem of_add_eq_none (h : (builder.add node).2 = none) :
    (builder.add node).1.nodes = builder.nodes ++ [node] ∧ (builder.add node).1.IsUntouched := by
  rcases builder.add_cases node with ⟨-, -, hadd⟩ | ⟨-, _, _, -, hadd⟩
  · rw [hadd]
    exact ⟨rfl, fun hempty => absurd hempty (by simp [push])⟩
  · rw [hadd] at h
    cases h

/-! ## Taking many nodes -/

theorem extend_cons_of_none {rest : List Node} (h : (builder.add node).2 = none) :
    builder.extend (node :: rest) = (builder.add node).1.extend rest := by
  rw [extend]
  split
  case h_1 next hadd => rw [hadd]
  case h_2 next fault hadd =>
    rw [hadd] at h
    cases h

theorem extend_cons_of_some {rest : List Node} {fault : BuildFault}
    (h : (builder.add node).2 = some fault) :
    builder.extend (node :: rest) = builder.add node := by
  rw [extend]
  split
  case h_1 next hadd =>
    rw [hadd] at h
    cases h
  case h_2 next other hadd => rw [hadd]

theorem IsSound.extend (h : builder.IsSound) (nodes : List Node) :
    (builder.extend nodes).1.IsSound := by
  induction nodes generalizing builder with
  | nil => exact h
  | cons node rest ih =>
    cases hadd : (builder.add node).2 with
    | none =>
      rw [extend_cons_of_none hadd]
      exact ih (h.add node)
    | some fault =>
      rw [extend_cons_of_some hadd]
      exact h.add node

/-- A sound builder that is untouched takes all of some nodes if and only if its nodes with these
    are in the order of a tree, and then it has them all. -/
theorem IsSound.extend_eq_none_iff (h : builder.IsSound) (huntouched : builder.IsUntouched)
    (nodes : List Node) :
    ((builder.extend nodes).2 = none ↔ IsInTreeOrder (builder.nodes ++ nodes)) ∧
      ((builder.extend nodes).2 = none →
        (builder.extend nodes).1.nodes = builder.nodes ++ nodes) := by
  induction nodes generalizing builder with
  | nil =>
    rw [List.append_nil]
    exact ⟨iff_of_true rfl h.order, fun _ => rfl⟩
  | cons node rest ih =>
    rw [List.append_cons]
    cases hadd : (builder.add node).2 with
    | none =>
      obtain ⟨hnodes, hnext⟩ := of_add_eq_none hadd
      rw [extend_cons_of_none hadd, ← hnodes]
      exact ih (h.add node) hnext
    | some fault =>
      rw [extend_cons_of_some hadd, hadd]
      refine ⟨iff_of_false nofun fun horder => ?_, nofun⟩
      have htaken := (h.add_eq_none_iff huntouched).2 horder.of_append
      exact nomatch hadd.symm.trans htaken

theorem nodes_prefix_add (builder : GraphBuilder) (node : Node) :
    builder.nodes <+: (builder.add node).1.nodes := by
  rcases builder.add_cases node with ⟨-, -, hadd⟩ | ⟨-, _, _, -, hadd⟩
  · rw [hadd]
    exact List.prefix_append _ _
  · simp only [hadd, List.prefix_refl]

theorem nodes_prefix_extend (builder : GraphBuilder) (nodes : List Node) :
    builder.nodes <+: (builder.extend nodes).1.nodes := by
  induction nodes generalizing builder with
  | nil => exact List.prefix_refl _
  | cons node rest ih =>
    cases hadd : (builder.add node).2 with
    | none =>
      rw [extend_cons_of_none hadd]
      exact (builder.nodes_prefix_add node).trans (ih _)
    | some fault =>
      rw [extend_cons_of_some hadd]
      exact builder.nodes_prefix_add node

/-! ## Runs -/

/-- What a builder can be asked to do. -/
inductive Request where
  | add (node : Node)
  | extend (nodes : List Node)

/-- The builder after a request, whether it was met or not. -/
def meet (builder : GraphBuilder) : Request → GraphBuilder
  | .add node => (builder.add node).1
  | .extend nodes => (builder.extend nodes).1

/-- The builder after requests, one after another, of which some may have been refused. -/
def run (builder : GraphBuilder) (requests : List Request) : GraphBuilder :=
  requests.foldl meet builder

theorem IsSound.meet (h : builder.IsSound) (request : Request) :
    (builder.meet request).IsSound := by
  cases request with
  | add node => exact h.add node
  | extend nodes => exact h.extend nodes

/-- A builder stays sound whatever it is asked. -/
theorem IsSound.run (h : builder.IsSound) (requests : List Request) :
    (builder.run requests).IsSound := by
  induction requests generalizing builder with
  | nil => exact h
  | cons request rest ih => exact ih (h.meet request)

theorem nodes_prefix_run (builder : GraphBuilder) (requests : List Request) :
    builder.nodes <+: (builder.run requests).nodes := by
  induction requests generalizing builder with
  | nil => exact List.prefix_refl _
  | cons request rest ih =>
    refine List.IsPrefix.trans ?_ (ih (builder.meet request))
    cases request with
    | add node => exact builder.nodes_prefix_add node
    | extend nodes => exact builder.nodes_prefix_extend nodes

end GraphBuilder

/-! ## The graphs that are built -/

/-- A snapshot lists nodes in the order of a tree, and for each of them but the first, in the same
    order, the edge from its parent. -/
structure Snapshot.IsInTreeOrder (snapshot : Snapshot) : Prop where
  nodes : SourceOutline.IsInTreeOrder snapshot.nodes
  edges_eq : snapshot.edges.map (fun edge => (some edge.source, edge.target, edge.relation))
    = snapshot.nodes.tail.map fun node => (node.parentId, node.id, containsRelation)

/-- One snapshot comes before another if its nodes and its edges do. -/
structure Snapshot.IsPrefix (snapshot later : Snapshot) : Prop where
  nodes : snapshot.nodes <+: later.nodes
  edges : snapshot.edges <+: later.edges

namespace GraphBuilder

/-- The graph of a sound builder is in the order of a tree. -/
theorem IsSound.build {builder : GraphBuilder} (h : builder.IsSound) :
    builder.build.IsInTreeOrder where
  nodes := h.order
  edges_eq := by
    have hparents : ∀ node ∈ builder.nodes.tail, node.parentId.isSome := by
      intro node hnode
      obtain ⟨before, after, htail⟩ := List.append_of_mem hnode
      cases hnodes : builder.nodes with
      | nil =>
        rw [hnodes] at hnode
        exact absurd hnode List.not_mem_nil
      | cons first rest =>
        rw [hnodes, List.tail_cons] at htail
        obtain ⟨parent, -, hparent⟩ :=
          h.order.exists_parent (first :: before) node after (by rw [hnodes, htail]; rfl) (by simp)
        rw [hparent]
        rfl
    refine Eq.trans ?_ (map_filterMap_parentEdge? _ hparents)
    rw [GraphBuilder.build, builder.edges_eq]
    -- the first node has no parent, so no edge leads to it
    cases hnodes : builder.nodes with
    | nil => rfl
    | cons first rest =>
      have hfirst : first.parentEdge? = none := by
        simp [Node.parentEdge?, h.order.first_parentId first rest hnodes]
      simp [hfirst]

theorem isPrefix_build {builder later : GraphBuilder} (h : builder.nodes <+: later.nodes) :
    builder.build.IsPrefix later.build where
  nodes := h
  edges := by
    rw [build, build, builder.edges_eq, later.edges_eq]
    exact h.filterMap _

/-- A fresh builder takes all of some nodes if and only if they are in the order of a tree; then it
    builds them as they are, with an edge to each of them but the first. Whatever a builder has been
    asked, and whatever of it was refused, it builds nodes in the order of a tree with their edges,
    and what it built before is the first part of that. -/
theorem accepts_iff_isInTreeOrder :
    (∀ nodes : List Node,
      ((({} : GraphBuilder).extend nodes).2 = none ↔ IsInTreeOrder nodes) ∧
      (IsInTreeOrder nodes →
        (({} : GraphBuilder).extend nodes).1.build.nodes = nodes ∧
        (({} : GraphBuilder).extend nodes).1.build.IsInTreeOrder)) ∧
    ∀ requests : List Request,
      (({} : GraphBuilder).run requests).build.IsInTreeOrder ∧
      ∀ more : List Request,
        (({} : GraphBuilder).run requests).build.IsPrefix
          (({} : GraphBuilder).run (requests ++ more)).build := by
  refine ⟨fun nodes => ?_, fun requests => ⟨(isSound_empty.run requests).build, fun more => ?_⟩⟩
  · obtain ⟨haccepts, htaken⟩ := isSound_empty.extend_eq_none_iff (fun _ => rfl) nodes
    refine ⟨haccepts, fun horder => ?_⟩
    exact ⟨htaken (haccepts.2 horder), (isSound_empty.extend nodes).build⟩
  · rw [run, run, List.foldl_append]
    exact isPrefix_build (nodes_prefix_run _ more)

end GraphBuilder

end SourceOutline
