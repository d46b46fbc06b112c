import SourceOutline.Graph.Builder

set_option autoImplicit false

/-! # Graphs that grow into trees

A builder takes a node if its id is new, its parent has come before, and its range is in order.
Nodes of which each meets these conditions after those before it are taken to the last one
(`GraphBuilder.extend_of_follows`), and together with a root they make a tree: every id once, every
parent before its children, and an edge for every node but the root
(`GraphBuilder.isTree_build`). -/

namespace SourceOutline

/-- Nodes that can come one after another when the ids `known` have been taken. -/
inductive Follows : List String → List Node → Prop
  | nil {known : List String} : Follows known []
  | cons {known : List String} {node : Node} {rest : List Node} {parent : String}
      (hnew : node.id ∉ known) (hparent : node.parentId = some parent) (hknown : parent ∈ known)
      (hrange : node.isReversed = false) (hrest : Follows (node.id :: known) rest) :
      Follows known (node :: rest)

namespace Follows

variable {known : List String} {nodes : List Node}

theorem append {others : List Node} (hnodes : Follows known nodes)
    (hothers : Follows ((nodes.map (·.id)).reverse ++ known) others) :
    Follows known (nodes ++ others) := by
  induction hnodes with
  | nil => simpa using hothers
  | cons hnew hparent hknown hrange _ ih =>
    exact .cons hnew hparent hknown hrange (ih (by simpa using hothers))

theorem ids_new (h : Follows known nodes) :
    (nodes.map (·.id)).Nodup ∧ ∀ id ∈ nodes.map (·.id), id ∉ known := by
  induction h with
  | nil => simp
  | cons hnew _ _ _ _ ih =>
    rw [List.map_cons, List.nodup_cons]
    refine ⟨⟨fun hmem => ih.2 _ hmem List.mem_cons_self, ih.1⟩, fun id hid => ?_⟩
    rcases List.mem_cons.1 hid with rfl | hrest
    · exact hnew
    · exact fun hknown => ih.2 id hrest (List.mem_cons_of_mem _ hknown)

theorem exists_parent (h : Follows known nodes) {before after : List Node} {node : Node}
    (hnodes : nodes = before ++ node :: after) :
    ∃ parent, node.parentId = some parent ∧ (parent ∈ known ∨ parent ∈ before.map (·.id)) := by
  induction h generalizing before with
  | nil => simp at hnodes
  | cons hnew hparent hknown hrange _ ih =>
    cases before with
    | nil =>
      cases hnodes
      exact ⟨_, hparent, .inl hknown⟩
    | cons first before =>
      obtain ⟨rfl, hrest⟩ := List.cons.inj hnodes
      obtain ⟨parent, hid, hplace⟩ := ih hrest
      refine ⟨parent, hid, ?_⟩
      rcases hplace with hin | hin
      · rcases List.mem_cons.1 hin with rfl | hin
        · exact .inr List.mem_cons_self
        · exact .inl hin
      · exact .inr (List.mem_cons_of_mem _ hin)

theorem forall_mem (h : Follows known nodes) :
    ∀ node ∈ nodes, node.parentId.isSome ∧ node.isReversed = false := by
  induction h with
  | nil => simp
  | cons hnew hparent hknown hrange _ ih =>
    intro node hnode
    rcases List.mem_cons.1 hnode with rfl | hrest
    · exact ⟨by simp [hparent], hrange⟩
    · exact ih node hrest

end Follows

/-! ## Taking the nodes -/

namespace GraphBuilder

variable {builder : GraphBuilder}

/-- Of what a builder has, the nodes and the place of the root determine the rest. -/
theorem eq_of_nodes_eq {other : GraphBuilder} (hnodes : builder.nodes = other.nodes)
    (hrooted : builder.rooted = other.rooted) : builder = other := by
  obtain ⟨nodes, edges, ids, rooted, rfl, rfl⟩ := builder
  obtain ⟨_, _, _, _, rfl, rfl⟩ := other
  obtain rfl : nodes = _ := hnodes
  obtain rfl : rooted = _ := hrooted
  rfl

/-- A builder that has taken nodes, one of them as the root. -/
def ofNodes (nodes : List Node) : GraphBuilder where
  nodes := nodes
  edges := nodes.filterMap Node.parentEdge?
  ids := nodes.map Node.id
  rooted := true
  edges_eq := rfl
  ids_eq := rfl

theorem has_eq_true_iff {id : String} : builder.has id = true ↔ id ∈ builder.nodes.map (·.id) := by
  rw [has, builder.ids_eq, List.contains_iff_mem]

theorem rangeFault?_eq_none {node : Node} (h : node.isReversed = false) :
    rangeFault? node = none := by
  unfold Node.isReversed at h
  unfold rangeFault?
  cases hend : node.endLine with
  | none => rfl
  | some last =>
    rw [hend] at h
    simp only [decide_eq_false_iff_not] at h
    simp only [if_neg h]

theorem add_of_known {node : Node} {parent : String} (hrooted : builder.rooted = true)
    (hnew : node.id ∉ builder.nodes.map (·.id)) (hparent : node.parentId = some parent)
    (hknown : parent ∈ builder.nodes.map (·.id)) (hrange : node.isReversed = false) :
    builder.add node = (ofNodes (builder.nodes ++ [node]), none) := by
  have hfresh : builder.has node.id = false :=
    Bool.eq_false_iff.2 fun htaken => hnew (has_eq_true_iff.1 htaken)
  have hplace : builder.placeFault? node = none := by
    simp [placeFault?, hfresh, hparent, has_eq_true_iff.2 hknown]
  have hnext : (builder.claim node).push node = ofNodes (builder.nodes ++ [node]) :=
    eq_of_nodes_eq rfl (by simp [push, claim, ofNodes, hrooted])
  simp only [add, hplace, rangeFault?_eq_none hrange, hnext]

/-- Nodes that can follow those of a builder with a root are all taken. -/
theorem extend_of_follows {known : List String} {nodes : List Node} (h : Follows known nodes) :
    ∀ builder : GraphBuilder, builder.rooted = true →
      (∀ id, id ∈ builder.nodes.map (·.id) ↔ id ∈ known) →
      builder.extend nodes = (ofNodes (builder.nodes ++ nodes), none) := by
  induction h with
  | nil =>
    intro builder hrooted _
    rw [extend, List.append_nil]
    exact congrArg (·, none) (eq_of_nodes_eq rfl hrooted)
  | @cons known node rest parent hnew hparent hknown hrange _ ih =>
    intro builder hrooted hids
    have hadd := add_of_known hrooted (mt (hids _).1 hnew) hparent ((hids _).2 hknown) hrange
    -- the ids that have been taken stay the known ones
    have hnext : ∀ id, id ∈ (ofNodes (builder.nodes ++ [node])).nodes.map (·.id) ↔
        id ∈ node.id :: known := by
      intro id
      rw [ofNodes, List.map_append, List.mem_append, List.mem_cons, ← hids id, or_comm,
        List.map_singleton, List.mem_singleton]
    simp only [extend, hadd]
    rw [ih _ rfl hnext]
    simp [ofNodes]

end GraphBuilder

/-! ## Trees -/

/-- A snapshot is a tree below a root: no id comes twice, the first node is the root and the only
    one without a parent, the parent of any other node comes before it, no range ends before it
    starts, and there is one edge from the parent of each node but the root, in order. -/
structure Snapshot.IsTree (snapshot : Snapshot) (root : Node) : Prop where
  ids_nodup : snapshot.ids.Nodup
  first : snapshot.root? = some root
  root_parentId : root.parentId = none
  exists_parent : ∀ before node after, snapshot.nodes = before ++ node :: after → before ≠ [] →
    ∃ parent ∈ before, node.parentId = some parent.id
  range_le : ∀ node ∈ snapshot.nodes, ∀ last, node.endLine = some last → node.startLine ≤ last
  edges_eq : snapshot.edges.map (fun edge => (some edge.source, edge.target, edge.relation))
    = snapshot.nodes.tail.map fun node => (node.parentId, node.id, containsRelation)

namespace GraphBuilder

theorem startLine_le_of_isReversed {node : Node} {last : Int} (h : node.isReversed = false)
    (hlast : node.endLine = some last) : node.startLine ≤ last := by
  simpa [Node.isReversed, hlast] using h

/-- The edges of nodes that have parents run from the parents to the nodes. -/
theorem map_filterMap_parentEdge? (nodes : List Node)
    (h : ∀ node ∈ nodes, node.parentId.isSome) :
    (nodes.filterMap Node.parentEdge?).map
        (fun edge => (some edge.source, edge.target, edge.relation))
      = nodes.map fun node => (node.parentId, node.id, containsRelation) := by
  induction nodes with
  | nil => rfl
  | cons node rest ih =>
    obtain ⟨parent, hparent⟩ := Option.isSome_iff_exists.1 (h node List.mem_cons_self)
    have hrest := ih fun n hn => h n (List.mem_cons_of_mem _ hn)
    have hedge : node.parentEdge? = some { source := parent, target := node.id } := by
      simp [Node.parentEdge?, hparent]
    rw [List.filterMap_cons, hedge, List.map_cons, List.map_cons, hrest, hparent]

theorem add_root {root : Node} (hroot : root.parentId = none) (hrange : root.isReversed = false) :
    ({} : GraphBuilder).add root = (ofNodes [root], none) := by
  have hplace : ({} : GraphBuilder).placeFault? root = none := by
    simp [placeFault?, has, hroot]
  have hnext : (({} : GraphBuilder).claim root).push root = ofNodes [root] :=
    eq_of_nodes_eq rfl (by simp [push, claim, ofNodes, hroot])
  simp only [add, hplace, rangeFault?_eq_none hrange, hnext]

theorem extend_root {root : Node} {nodes : List Node} (hroot : root.parentId = none)
    (hrange : root.isReversed = false) (h : Follows [root.id] nodes) :
    ({} : GraphBuilder).extend (root :: nodes) = (ofNodes (root :: nodes), none) := by
  simp only [extend, add_root hroot hrange]
  exact extend_of_follows h (ofNodes [root]) rfl fun _ => Iff.rfl

/-- A root and nodes that can follow it make a tree. -/
theorem isTree_build {root : Node} {nodes : List Node} (hroot : root.parentId = none)
    (hrange : root.isReversed = false) (h : Follows [root.id] nodes) :
    (ofNodes (root :: nodes)).build.IsTree root where
  ids_nodup := by
    obtain ⟨hnodup, hnew⟩ := h.ids_new
    refine List.nodup_cons.2 ⟨fun hmem => ?_, hnodup⟩
    exact hnew _ hmem List.mem_cons_self
  first := rfl
  root_parentId := hroot
  exists_parent := by
    intro before node after hnodes hne
    cases before with
    | nil => exact absurd rfl hne
    | cons first before =>
      obtain ⟨rfl, hrest⟩ := List.cons.inj hnodes
      obtain ⟨parent, hparent, hplace⟩ := h.exists_parent hrest
      rcases hplace with hin | hin
      · exact ⟨root, List.mem_cons_self, by rw [hparent, List.mem_singleton.1 hin]⟩
      · obtain ⟨found, hfound, rfl⟩ := List.mem_map.1 hin
        exact ⟨found, List.mem_cons_of_mem _ hfound, hparent⟩
  range_le := by
    intro node hnode last hlast
    rcases List.mem_cons.1 hnode with rfl | hrest
    · exact startLine_le_of_isReversed hrange hlast
    · exact startLine_le_of_isReversed (h.forall_mem node hrest).2 hlast
  edges_eq := by
    have hedge : root.parentEdge? = none := by simp [Node.parentEdge?, hroot]
    simp only [build, ofNodes, List.filterMap_cons, hedge, List.tail_cons]
    exact map_filterMap_parentEdge? nodes fun node hnode => (h.forall_mem node hnode).1

end GraphBuilder

end SourceOutline
