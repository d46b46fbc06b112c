import SourceOutline.Proofs.Graph.Identity
import SourceOutline.Proofs.Outline.Nesting

set_option autoImplicit false

/-! # Outlines with the same ids

The ids of an outline tell which lines open a definition, of which kind and with which name, but not
how deep these lines are indented. So two texts may have the same ids and still nest their
definitions in different ways. The parent of a definition is the same in both exactly if the line is
enclosed by the same lines in both (`parentId_eq_iff_isEnclosing_iff`). -/

namespace SourceOutline

variable {context other : ScanContext Int} {lines others : List Line} {i j : Nat} {id path : String}
  {node : Node}

theorem idAt?_of_nodeAt? (h : nodeAt? context lines i = some node) :
    idAt? context lines i = some node.id := by
  obtain ⟨definition, hopens, rfl⟩ := nodeAt?_eq_some_iff.1 h
  rw [idAt?, hopens]
  rfl

theorem exists_nodeAt?_of_idAt? (h : idAt? context lines i = some id) :
    ∃ node, nodeAt? context lines i = some node ∧ node.id = id := by
  obtain ⟨definition, hopens, rfl⟩ := Option.map_eq_some_iff.1 h
  exact ⟨_, nodeAt?_eq_some_iff.2 ⟨definition, hopens, rfl⟩, rfl⟩

theorem line_eq_of_idAt? (hi : idAt? context lines i = some id)
    (hj : idAt? other others j = some id) : i = j := by
  obtain ⟨definition, hopens, rfl⟩ := Option.map_eq_some_iff.1 hi
  obtain ⟨definition', hopens', hid⟩ := Option.map_eq_some_iff.1 hj
  obtain ⟨line, -, hline⟩ := Option.bind_eq_some_iff.1 hopens
  obtain ⟨line', -, hline'⟩ := Option.bind_eq_some_iff.1 hopens'
  exact (definitionId_inj (Definition.colon_notMem_name hline)
    (Definition.colon_notMem_name hline') hid.symm).2.2.1

/-- The parent of a definition is the one of a line exactly if that line encloses its own. -/
theorem parentId_eq_some_iff_isEnclosing (hfile : context.fileId = fileId path)
    (hnode : nodeAt? context lines i = some node) (hid : idAt? context lines j = some id) :
    node.parentId = some id ↔ IsEnclosing context.ruler lines j i := by
  constructor
  · intro hparent
    by_cases henclosed : ∃ k, IsEnclosing context.ruler lines k i
    · obtain ⟨k, hk⟩ := henclosed
      obtain ⟨parent, hline, hsome⟩ := parentId_of_isEnclosing hnode hk
      rw [hparent] at hsome
      have hlineId := idAt?_of_nodeAt? hline
      rw [← Option.some.inj hsome] at hlineId
      obtain rfl := line_eq_of_idAt? hid hlineId
      exact hk
    · -- the file is no definition
      rw [parentId_of_not_isEnclosing hnode (not_exists.1 henclosed), hfile] at hparent
      obtain ⟨definition, -, rfl⟩ := Option.map_eq_some_iff.1 hid
      exact absurd (Option.some.inj hparent).symm (definitionId_ne_fileId _ _ _ _ _)
  · intro henclosing
    obtain ⟨parent, hline, hparent⟩ := parentId_of_isEnclosing hnode henclosing
    rw [hparent, ← idAt?_of_nodeAt? hline, hid]

/-- In texts with the same ids on all lines, two definitions on the same line have the same parent
    exactly if the same lines enclose them. -/
theorem parentId_eq_iff_isEnclosing_iff {otherNode : Node}
    (hfile : context.fileId = fileId path) (hfiles : context.fileId = other.fileId)
    (hids : ∀ j, idAt? context lines j = idAt? other others j)
    (hnode : nodeAt? context lines i = some node)
    (hother : nodeAt? other others i = some otherNode) :
    node.parentId = otherNode.parentId ↔
      ∀ j, IsEnclosing context.ruler lines j i ↔ IsEnclosing other.ruler others j i := by
  -- a line that encloses another opens a definition, whose id is the same in both texts
  have hopens : ∀ {context : ScanContext Int} {lines : List Line} {j}, IsEnclosing context.ruler
      lines j i → ∃ id, idAt? context lines j = some id := by
    intro context lines j h
    obtain ⟨definition, hdefinition⟩ := Option.isSome_iff_exists.1 h.opens
    exact ⟨_, Option.map_eq_some_iff.2 ⟨definition, hdefinition, rfl⟩⟩
  have hiff : ∀ {j id}, idAt? context lines j = some id →
      (node.parentId = some id ↔ IsEnclosing context.ruler lines j i) :=
    parentId_eq_some_iff_isEnclosing hfile hnode
  have hotherIff : ∀ {j id}, idAt? other others j = some id →
      (otherNode.parentId = some id ↔ IsEnclosing other.ruler others j i) :=
    parentId_eq_some_iff_isEnclosing (hfiles ▸ hfile) hother
  constructor
  · intro hparent j
    constructor
    · intro h
      obtain ⟨id, hid⟩ := hopens h
      rw [← hotherIff (hids j ▸ hid), ← hparent]
      exact (hiff hid).2 h
    · intro h
      obtain ⟨id, hid⟩ := hopens h
      rw [← hids j] at hid
      rw [← hiff hid, hparent]
      exact (hotherIff (hids j ▸ hid)).2 h
  · intro hsame
    by_cases henclosed : ∃ j, IsEnclosing context.ruler lines j i
    · obtain ⟨j, hj⟩ := henclosed
      obtain ⟨id, hid⟩ := hopens hj
      rw [(hiff hid).2 hj, (hotherIff (hids j ▸ hid)).2 ((hsame j).1 hj)]
    · rw [parentId_of_not_isEnclosing hnode (not_exists.1 henclosed),
        parentId_of_not_isEnclosing hother fun j hj => henclosed ⟨j, (hsame j).2 hj⟩, hfiles]

end SourceOutline
