import Mathlib.Data.List.Sort
import SourceOutline.Proofs.Outline.Nesting

set_option autoImplicit false

/-! # Definitions that stand in another text

The definitions of a text may stand in another one too, on other lines and at other depths. If they
come in the same order, and their depths are in the same order, the same definitions enclose each
other there (`IsPlacement.isEnclosing_iff`); of the lines in between, of other measures of depth and
of definitions that stand above all of these, nothing else is needed. So the nodes of the two
outlines go together one by one, and a node has its parent where the other has it
(`IsPlacement.isMatching`). -/

namespace SourceOutline

/-! ## The lines of an outline -/

section Lines

variable {context : ScanContext Int} {lines : List Line} {i : Nat}

theorem mem_definitionLines_iff :
    i ∈ definitionLines lines ↔ (definitionAt? lines i).isSome := by
  rw [definitionLines, List.mem_filter, List.mem_range, and_iff_right_iff_imp]
  exact lt_length_of_definitionAt?

theorem outline_eq_filterMap_definitionLines (context : ScanContext Int) (source : String) :
    outline context source = (definitionLines (splitLines source.toList)).filterMap
      (nodeAt? context (splitLines source.toList)) := by
  rw [outline_eq_filterMap, definitionLines, List.filterMap_filter]
  refine List.filterMap_congr fun i _ => ?_
  by_cases hopens : (definitionAt? (splitLines source.toList) i).isSome
  · rw [if_pos hopens]
  · rw [if_neg hopens, Option.eq_none_iff_forall_ne_some]
    intro node hnode
    exact hopens (isSome_definitionAt?_of_nodeAt? hnode)

end Lines

/-! ## Placements -/

/-- The definitions of a text stand in another, in the same order of lines and of depths. What else
    is defined there stands above them and encloses none of them. -/
structure IsPlacement (ruler other : Ruler Int) (lines others : List Line) (place : Nat → Nat) :
    Prop where
  definitionAt?_eq : ∀ i, (definitionAt? lines i).isSome →
    definitionAt? others (place i) = definitionAt? lines i
  lt_of_lt : ∀ i j, (definitionAt? lines i).isSome → (definitionAt? lines j).isSome → i < j →
    place i < place j
  le_iff : ∀ i j, (definitionAt? lines i).isSome → (definitionAt? lines j).isSome →
    (depthAt other others (place i) ≤ depthAt other others (place j) ↔
      depthAt ruler lines i ≤ depthAt ruler lines j)
  placed_or_above : ∀ k, (definitionAt? others k).isSome →
    (∃ i, (definitionAt? lines i).isSome ∧ place i = k) ∨
    ∀ i, (definitionAt? lines i).isSome → k < place i ∧ ¬ IsEnclosing other others k (place i)

namespace IsPlacement

variable {ruler other : Ruler Int} {lines others : List Line} {place : Nat → Nat} {i j : Nat}

theorem isSome (h : IsPlacement ruler other lines others place)
    (hi : (definitionAt? lines i).isSome) : (definitionAt? others (place i)).isSome := by
  rw [h.definitionAt?_eq i hi]
  exact hi

theorem lt_iff (h : IsPlacement ruler other lines others place)
    (hi : (definitionAt? lines i).isSome) (hj : (definitionAt? lines j).isSome) :
    place i < place j ↔ i < j := by
  constructor
  · intro hplaces
    by_contra hnot
    rcases Nat.lt_or_eq_of_le (Nat.le_of_not_lt hnot) with hlt | rfl
    · exact Nat.lt_asymm hplaces (h.lt_of_lt j i hj hi hlt)
    · exact Nat.lt_irrefl _ hplaces
  · exact h.lt_of_lt i j hi hj

/-- Placed definitions are deeper than others where they are so in the one text. -/
theorem depth_lt_iff (h : IsPlacement ruler other lines others place)
    (hi : (definitionAt? lines i).isSome) (hj : (definitionAt? lines j).isSome) :
    depthAt other others (place i) < depthAt other others (place j) ↔
      depthAt ruler lines i < depthAt ruler lines j := by
  rw [← Int.not_le, ← Int.not_le, h.le_iff j i hj hi]

/-- Definitions enclose each other where they are placed as they do where they come from. -/
theorem isEnclosing_iff (h : IsPlacement ruler other lines others place)
    (hi : (definitionAt? lines i).isSome) (hj : (definitionAt? lines j).isSome) :
    IsEnclosing other others (place j) (place i) ↔ IsEnclosing ruler lines j i := by
  constructor
  · rintro ⟨hbefore, -, hshallower, hlast⟩
    have hji := (h.lt_iff hj hi).1 hbefore
    refine ⟨hji, hj, (h.depth_lt_iff hj hi).1 hshallower, fun k hjk hki hk => ?_⟩
    have hle := hlast (place k) (h.lt_of_lt j k hj hk hjk) (h.lt_of_lt k i hk hi hki) (h.isSome hk)
    exact (h.le_iff i k hi hk).1 hle
  · rintro ⟨hbefore, -, hshallower, hlast⟩
    refine ⟨h.lt_of_lt j i hj hi hbefore, h.isSome hj, (h.depth_lt_iff hj hi).2 hshallower,
      fun k hjk hki hk => ?_⟩
    rcases h.placed_or_above k hk with ⟨m, hm, rfl⟩ | habove
    · have hle := hlast m ((h.lt_iff hj hm).1 hjk) ((h.lt_iff hm hi).1 hki) hm
      exact (h.le_iff i m hi hm).2 hle
    · exact absurd hjk (Nat.lt_asymm (habove j hj).1)

theorem exists_of_isEnclosing (h : IsPlacement ruler other lines others place)
    (hi : (definitionAt? lines i).isSome) {k : Nat} (hk : IsEnclosing other others k (place i)) :
    ∃ j, IsEnclosing ruler lines j i ∧ place j = k := by
  rcases h.placed_or_above k hk.opens with ⟨j, hj, rfl⟩ | habove
  · exact ⟨j, (h.isEnclosing_iff hi hj).1 hk, rfl⟩
  · exact absurd hk (habove i hi).2

/-- If everything that is defined in the other text is placed there, its definitions stand on the
    places. -/
theorem definitionLines_eq (h : IsPlacement ruler other lines others place)
    (hall : ∀ k, (definitionAt? others k).isSome →
      ∃ i, (definitionAt? lines i).isSome ∧ place i = k) :
    definitionLines others = (definitionLines lines).map place := by
  refine List.Pairwise.eq_of_mem_iff (pairwise_definitionLines others) ?_ fun k => ?_
  · rw [List.pairwise_map]
    exact (pairwise_definitionLines lines).imp_of_mem fun hi hj hij =>
      h.lt_of_lt _ _ (mem_definitionLines_iff.1 hi) (mem_definitionLines_iff.1 hj) hij
  · rw [mem_definitionLines_iff, List.mem_map]
    constructor
    · intro hk
      obtain ⟨i, hi, hplace⟩ := hall k hk
      exact ⟨i, mem_definitionLines_iff.2 hi, hplace⟩
    · rintro ⟨i, hi, rfl⟩
      exact h.isSome (mem_definitionLines_iff.1 hi)

end IsPlacement

/-! ## Nodes that go together -/

/-- The nodes of two outlines go together one by one, in order: the nodes of a pair tell of the same
    definition, and their parents are a pair as well, or the file for both. -/
structure IsMatching (fileId : String) (pairs : List (Node × Node)) (nodes others : List Node) :
    Prop where
  map_fst : pairs.map Prod.fst = nodes
  map_snd : pairs.map Prod.snd = others
  label_eq : ∀ pair ∈ pairs, pair.2.label = pair.1.label
  kind_eq : ∀ pair ∈ pairs, pair.2.kind = pair.1.kind
  sourcePath_eq : ∀ pair ∈ pairs, pair.2.sourcePath = pair.1.sourcePath
  parents : ∀ pair ∈ pairs,
    (pair.1.parentId = some fileId ∧ pair.2.parentId = some fileId) ∨
    ∃ parents ∈ pairs, pair.1.parentId = some parents.1.id ∧ pair.2.parentId = some parents.2.id

/-- The node of a definition together with its node where it is placed. -/
def pairAt? (context other : ScanContext Int) (lines others : List Line) (place : Nat → Nat)
    (i : Nat) : Option (Node × Node) :=
  (nodeAt? context lines i).bind fun node =>
    (nodeAt? other others (place i)).map fun placed => (node, placed)

section Pairs

variable {context other : ScanContext Int} {lines others : List Line} {place : Nat → Nat} {i : Nat}

theorem pairAt?_eq_some_iff {pair : Node × Node} :
    pairAt? context other lines others place i = some pair ↔
      nodeAt? context lines i = some pair.1 ∧ nodeAt? other others (place i) = some pair.2 := by
  simp only [pairAt?, Option.bind_eq_some_iff, Option.map_eq_some_iff]
  constructor
  · rintro ⟨node, hnode, placed, hplaced, rfl⟩
    exact ⟨hnode, hplaced⟩
  · rintro ⟨hnode, hplaced⟩
    exact ⟨_, hnode, _, hplaced, rfl⟩

theorem mem_pairs_iff {pair : Node × Node} :
    pair ∈ (definitionLines lines).filterMap (pairAt? context other lines others place) ↔
      ∃ i, nodeAt? context lines i = some pair.1 ∧
        nodeAt? other others (place i) = some pair.2 := by
  simp only [List.mem_filterMap, pairAt?_eq_some_iff]
  constructor
  · rintro ⟨i, -, hpair⟩
    exact ⟨i, hpair⟩
  · rintro ⟨i, hnode, hplaced⟩
    exact ⟨i, mem_definitionLines_iff.2 (isSome_definitionAt?_of_nodeAt? hnode), hnode, hplaced⟩

namespace IsPlacement

variable (h : IsPlacement context.ruler other.ruler lines others place)
include h

theorem exists_pairAt? (hi : (definitionAt? lines i).isSome) :
    ∃ pair, pairAt? context other lines others place i = some pair := by
  obtain ⟨node, hnode⟩ := exists_nodeAt? context hi
  obtain ⟨placed, hplaced⟩ := exists_nodeAt? other (h.isSome hi)
  exact ⟨(node, placed), pairAt?_eq_some_iff.2 ⟨hnode, hplaced⟩⟩

theorem label_kind_eq {node placed : Node} (hnode : nodeAt? context lines i = some node)
    (hplaced : nodeAt? other others (place i) = some placed) :
    placed.label = node.label ∧ placed.kind = node.kind := by
  have hi := isSome_definitionAt?_of_nodeAt? hnode
  obtain ⟨definition, hdefinition, rfl⟩ := nodeAt?_eq_some_iff.1 hnode
  obtain ⟨definition', hdefinition', rfl⟩ := nodeAt?_eq_some_iff.1 hplaced
  rw [h.definitionAt?_eq i hi, hdefinition] at hdefinition'
  obtain rfl := Option.some.inj hdefinition'
  exact ⟨rfl, rfl⟩

/-- The parents of a node and of its placed node are the file, or the nodes of one line and of its
    place. -/
theorem parents (hfile : other.fileId = context.fileId) {node placed : Node}
    (hnode : nodeAt? context lines i = some node)
    (hplaced : nodeAt? other others (place i) = some placed) :
    (node.parentId = some context.fileId ∧ placed.parentId = some context.fileId) ∨
    ∃ j parent placedParent, nodeAt? context lines j = some parent ∧
      nodeAt? other others (place j) = some placedParent ∧
      node.parentId = some parent.id ∧ placed.parentId = some placedParent.id := by
  have hi := isSome_definitionAt?_of_nodeAt? hnode
  by_cases henclosed : ∃ j, IsEnclosing context.ruler lines j i
  · obtain ⟨j, hj⟩ := henclosed
    obtain ⟨parent, hparent, hid⟩ := parentId_of_isEnclosing hnode hj
    obtain ⟨placedParent, hplacedParent, hplacedId⟩ :=
      parentId_of_isEnclosing hplaced ((h.isEnclosing_iff hi hj.opens).2 hj)
    exact .inr ⟨j, parent, placedParent, hparent, hplacedParent, hid, hplacedId⟩
  · refine .inl ⟨parentId_of_not_isEnclosing hnode (not_exists.1 henclosed), ?_⟩
    rw [parentId_of_not_isEnclosing hplaced, hfile]
    intro k hk
    obtain ⟨j, hj, -⟩ := h.exists_of_isEnclosing hi hk
    exact henclosed ⟨j, hj⟩

variable (context other) in
/-- The nodes of placed definitions go together with those of the definitions. -/
theorem isMatching (hfile : other.fileId = context.fileId)
    (hpath : other.sourcePath = context.sourcePath) :
    IsMatching context.fileId
      ((definitionLines lines).filterMap (pairAt? context other lines others place))
      ((definitionLines lines).filterMap (nodeAt? context lines))
      ((definitionLines lines).filterMap fun i => nodeAt? other others (place i)) where
  map_fst := by
    rw [List.map_filterMap]
    refine List.filterMap_congr fun i hi => ?_
    obtain ⟨pair, hpair⟩ := h.exists_pairAt? (mem_definitionLines_iff.1 hi)
    rw [hpair, (pairAt?_eq_some_iff.1 hpair).1]
    rfl
  map_snd := by
    rw [List.map_filterMap]
    refine List.filterMap_congr fun i hi => ?_
    obtain ⟨pair, hpair⟩ := h.exists_pairAt? (mem_definitionLines_iff.1 hi)
    rw [hpair, (pairAt?_eq_some_iff.1 hpair).2]
    rfl
  label_eq pair hpair := by
    obtain ⟨i, hnode, hplaced⟩ := mem_pairs_iff.1 hpair
    exact (h.label_kind_eq hnode hplaced).1
  kind_eq pair hpair := by
    obtain ⟨i, hnode, hplaced⟩ := mem_pairs_iff.1 hpair
    exact (h.label_kind_eq hnode hplaced).2
  sourcePath_eq pair hpair := by
    obtain ⟨i, hnode, hplaced⟩ := mem_pairs_iff.1 hpair
    rw [sourcePath_of_nodeAt? hnode, sourcePath_of_nodeAt? hplaced, hpath]
  parents pair hpair := by
    obtain ⟨i, hnode, hplaced⟩ := mem_pairs_iff.1 hpair
    rcases h.parents hfile hnode hplaced with
      hboth | ⟨j, parent, placedParent, hparent, hplacedParent, hid, hplacedId⟩
    · exact .inl hboth
    · exact .inr ⟨(parent, placedParent), mem_pairs_iff.2 ⟨j, hparent, hplacedParent⟩, hid,
        hplacedId⟩

end IsPlacement

end Pairs

end SourceOutline
