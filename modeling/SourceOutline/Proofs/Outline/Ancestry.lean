import SourceOutline.Proofs.Graph.Preorder
import SourceOutline.Proofs.Outline.Extent

set_option autoImplicit false

/-! # Blocks and ancestors

A definition may stand outside the block of its parent, so ancestors do not tell how blocks lie. The
converse holds: a definition that starts in the block of another has it among its ancestors
(`contains_of_le_lastLineAt`). All code of the block is indented deeper than the definition that
opens it, so the search for the innermost enclosing definition cannot go past that one; it may end
before, at a definition of the same block. Together with how blocks end this gives the main
statement: of two blocks, either the first ends before the second starts, or the second is inside
the first and belongs to a descendant. -/

namespace SourceOutline

variable {context : ScanContext Int} {lines : List Line} {i : Nat}

/-- A definition that starts in the block of another is one of those that the other contains. -/
theorem contains_of_le_lastLineAt {snapshot : Snapshot} {outer : Node}
    (hnodes : ∀ k node, nodeAt? context lines k = some node → node ∈ snapshot.nodes)
    (houter : nodeAt? context lines i = some outer) :
    ∀ {j inner}, nodeAt? context lines j = some inner → i < j →
      j ≤ lastLineAt context.ruler lines i → snapshot.Contains outer inner := by
  intro j
  -- the parent starts in the same block, on an earlier line
  induction j using Nat.strongRecOn with
  | ind j ih =>
    intro inner hinner hij hin
    obtain ⟨line, hline, hcode⟩ := exists_line_of_nodeAt? hinner
    have hopens : (definitionAt? lines i).isSome := isSome_definitionAt?_of_nodeAt? houter
    have hdepth : depthAt context.ruler lines i < depthAt context.ruler lines j := by
      have hopen := ((le_lastLineAt_iff hij).1 hin).2 j line hij (Nat.le_refl j) hline
      rw [depthAt_eq hline]
      exact closesBlock_eq_false_iff.1 hopen hcode
    obtain ⟨k, hk⟩ := exists_isEnclosing hij hopens hdepth
    obtain ⟨parent, hparent, hid⟩ := parentId_of_isEnclosing hinner hk
    rcases Nat.eq_or_lt_of_le (hk.le_of_shallower hij hopens hdepth) with rfl | hlt
    · obtain rfl := Option.some.inj (houter.symm.trans hparent)
      exact .child (hnodes i outer houter) (hnodes j inner hinner) hid
    · have hkin : k ≤ lastLineAt context.ruler lines i := Nat.le_trans (Nat.le_of_lt hk.before) hin
      exact .deeper (ih k hk.before hparent hlt hkin) (hnodes j inner hinner) hid

/-- **Blocks are nested or apart.** Of two definitions in a text, whatever a tab counts for, either
    the block of the first ends before the second starts, or the block of the second lies in that of
    the first, and then the first is an ancestor of the second. -/
theorem blocks_nested_or_apart (tabWidth snippetLines : Int) (sourcePath fileId source : String)
    {first second : Node}
    (hfirst : first ∈ outline
      { ruler := .ofTabWidth tabWidth, snippetLines, sourcePath, fileId } source)
    (hsecond : second ∈ outline
      { ruler := .ofTabWidth tabWidth, snippetLines, sourcePath, fileId } source)
    (horder : first.startLine < second.startLine) :
    (∃ last, first.endLine = some last ∧ last < second.startLine) ∨
    (second.IsWithin first ∧
      Snapshot.Contains
        { nodes := outline { ruler := .ofTabWidth tabWidth, snippetLines, sourcePath, fileId }
            source }
        first second) := by
  obtain ⟨i, hi⟩ := mem_outline_iff.1 hfirst
  obtain ⟨j, hj⟩ := mem_outline_iff.1 hsecond
  obtain ⟨hstart, hlast⟩ := range_of_nodeAt? hi
  rw [hstart, (range_of_nodeAt? hj).1] at horder
  have hij : i < j := Int.ofNat_lt.1 horder
  rcases Nat.lt_or_ge
    (lastLineAt (.ofTabWidth tabWidth) (splitLines source.toList) i) j with hends | hin
  · refine .inl ⟨_, hlast, ?_⟩
    rw [(range_of_nodeAt? hj).1]
    exact Int.ofNat_lt.2 hends
  · refine .inr ⟨(isWithin_iff_le_lastLineAt hi hj).2 ⟨hij, hin⟩, ?_⟩
    exact contains_of_le_lastLineAt (fun k node hnode => mem_outline_iff.2 ⟨k, hnode⟩) hi hj hij hin

/-- A method in a class in a class: its block lies in that of the outer class, which is an ancestor
    though not the parent. -/
theorem blocks_nested_innerMethod :
    let nodes := outline { ruler := .ofTabWidth 4, snippetLines := 0, sourcePath := "/m.py",
                           fileId := "file:/m.py" }
      "class A:\n  class B:\n# note\n    def f(): pass\n  x = 1\n"
    ∃ outer middle inner, nodes = [outer, middle, inner] ∧ outer.startLine < inner.startLine ∧
      inner.parentId ≠ some outer.id ∧ inner.IsWithin outer ∧
      Snapshot.Contains { nodes } outer inner := by
  intro nodes
  let outer : Node :=
    { id := "class:/m.py:0:A", label := "A", kind := "class", sourcePath := "/m.py"
      startLine := 0, endLine := some 4, parentId := some "file:/m.py", snippet := some "" }
  let middle : Node :=
    { id := "class:/m.py:1:B", label := "B", kind := "class", sourcePath := "/m.py"
      startLine := 1, endLine := some 3, parentId := some "class:/m.py:0:A", snippet := some "" }
  let inner : Node :=
    { id := "function:/m.py:3:f", label := "f", kind := "function", sourcePath := "/m.py"
      startLine := 3, endLine := some 3, parentId := some "class:/m.py:1:B", snippet := some "" }
  have hnodes : nodes = [outer, middle, inner] := by decide +kernel
  have houter : outer ∈ nodes := by rw [hnodes]; exact List.mem_cons_self
  have hinner : inner ∈ nodes := by
    rw [hnodes]
    exact List.mem_cons_of_mem _ (List.mem_cons_of_mem _ List.mem_cons_self)
  have horder : outer.startLine < inner.startLine := by decide
  refine ⟨outer, middle, inner, hnodes, horder, by decide, ?_⟩
  rcases blocks_nested_or_apart 4 0 "/m.py" "file:/m.py" _ houter hinner horder with
    ⟨last, hlast, hbefore⟩ | hnested
  · cases hlast
    exact absurd hbefore (by decide)
  · exact hnested

end SourceOutline
