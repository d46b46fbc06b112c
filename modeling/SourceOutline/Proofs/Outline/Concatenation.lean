import SourceOutline.Proofs.Outline.Extent
import SourceOutline.Proofs.Outline.Placement
import SourceOutline.Proofs.Text.Line

set_option autoImplicit false

/-! # Outlines of texts that are put together

A definition at the start of a line, not indented, leaves everything behind that was open before it:
it ends every block, and no line above encloses what follows. So the outline of a text that starts
with such a line does not depend on what comes before it, and the outline of what comes before does
not depend on it either. Main statement: `outline_append`. It needs that no line is indented to the
left of the margin, so tabs may not count backwards. -/

namespace SourceOutline

section Lines

variable {ruler : Ruler Int} {first second : List Line} {i j : Nat}

/-! ## Lines before and after -/

theorem definitionAt?_append_left (second : List Line) (hi : i < first.length) :
    definitionAt? (first ++ second) i = definitionAt? first i := by
  rw [definitionAt?, definitionAt?, List.getElem?_append_left hi]

theorem getElem?_append_length_add (first second : List Line) (i : Nat) :
    (first ++ second)[first.length + i]? = second[i]? := by
  rw [List.getElem?_append_right (Nat.le_add_right _ _), Nat.add_sub_cancel_left]

theorem definitionAt?_append_right (first second : List Line) (i : Nat) :
    definitionAt? (first ++ second) (first.length + i) = definitionAt? second i := by
  rw [definitionAt?, definitionAt?, getElem?_append_length_add]

theorem depthAt_append_left (second : List Line) (hi : i < first.length) :
    depthAt ruler (first ++ second) i = depthAt ruler first i := by
  simp only [depthAt, List.getD_eq_getElem?_getD, List.getElem?_append_left hi]

theorem depthAt_append_right (first second : List Line) (i : Nat) :
    depthAt ruler (first ++ second) (first.length + i) = depthAt ruler second i := by
  simp only [depthAt, List.getD_eq_getElem?_getD, getElem?_append_length_add]

theorem definitionLines_append (first second : List Line) :
    definitionLines (first ++ second)
      = definitionLines first ++ (definitionLines second).map (first.length + ·) := by
  rw [definitionLines, List.length_append, List.range_add, List.filter_append, List.filter_map]
  congr 1
  · refine List.filter_congr fun i hi => ?_
    rw [definitionAt?_append_left second (List.mem_range.1 hi)]
  · refine congrArg _ (List.filter_congr fun i _ => ?_)
    rw [Function.comp_apply, definitionAt?_append_right]

/-! ## Depths and the margin -/

/-- Spaces and tabs lead to the right if tabs do not count backwards. -/
theorem le_advance {tabWidth : Int} (htab : 0 ≤ tabWidth) (depth : Int) (line : Line) :
    depth ≤ (Ruler.ofTabWidth tabWidth).advance depth line := by
  fun_induction (Ruler.ofTabWidth tabWidth).advance depth line with
  | case1 depth rest ih => simp only [Ruler.ofTabWidth] at ih ⊢; omega
  | case2 depth rest ih => simp only [Ruler.ofTabWidth] at ih ⊢; omega
  | case3 depth line hnoSpace hnoTab => exact Int.le_refl _

theorem depthAt_nonneg {tabWidth : Int} (htab : 0 ≤ tabWidth) (lines : List Line) (i : Nat) :
    0 ≤ depthAt (.ofTabWidth tabWidth) lines i :=
  le_advance htab 0 _

end Lines

/-! ## Nodes of the first text -/

section First

variable {ruler : Ruler Int} {context : ScanContext Int} {first second : List Line} {i : Nat}

/-- A block that the next line would end is no longer for what follows it. -/
theorem blockLength_append {depth : Int} {line : Line}
    (h : closesBlock ruler depth line = true) (after rest : List Line) :
    blockLength ruler depth (after ++ line :: rest) = blockLength ruler depth after := by
  induction after with
  | nil => simp [blockLength, h]
  | cons next after ih =>
    cases hcloses : closesBlock ruler depth next with
    | true => simp [blockLength, hcloses]
    | false => simpa [blockLength, hcloses] using ih

theorem enclosingLine?_append_left (second : List Line) (depth : Int) (hi : i ≤ first.length) :
    enclosingLine? ruler (first ++ second) depth i = enclosingLine? ruler first depth i := by
  rw [enclosingLine?, enclosingLine?]
  refine congrArg _ (List.filter_congr fun j hj => ?_)
  have hj : j < first.length := Nat.lt_of_lt_of_le (List.mem_range.1 hj) hi
  rw [definitionAt?_append_left second hj, depthAt_append_left second hj]

theorem enclosingId_append_left (second : List Line) (depth : Int) (hi : i ≤ first.length) :
    enclosingId context (first ++ second) depth i = enclosingId context first depth i := by
  rw [enclosingId, enclosingId, enclosingLine?_append_left second depth hi]
  cases hfound : enclosingLine? context.ruler first depth i with
  | none => rfl
  | some j =>
    have hj : j < first.length := Nat.lt_of_lt_of_le (enclosingLine?_eq_some_iff.1 hfound).1 hi
    rw [Option.bind_some, Option.bind_some, idAt?, idAt?, definitionAt?_append_left second hj]

theorem snippetOf_natCast (lines : List Line) (count start stop : Nat) :
    snippetOf lines count start stop = String.ofList (joinLines
      (slice lines start ((min (stop + 1) (start + count) : Nat) : Int))) := by
  have hstop : min ((stop : Int) + 1) (start + count)
      = ((min (stop + 1) (start + count) : Nat) : Int) := by omega
  rw [snippetOf, hstop]

/-- A line of the first text has the node that it has in it, if the second starts with a line that
    would end its block. -/
theorem nodeAt?_append_left {line : Line} {rest : List Line} (hi : i < first.length)
    (hcloses : closesBlock context.ruler (depthAt context.ruler first i) line = true)
    (hsnippet : 0 ≤ context.snippetLines) :
    nodeAt? context (first ++ line :: rest) i = nodeAt? context first i := by
  obtain ⟨count, hcount⟩ := Int.eq_ofNat_of_zero_le hsnippet
  have hdrop : (first ++ line :: rest).drop (i + 1) = first.drop (i + 1) ++ line :: rest :=
    List.drop_append_of_le_length hi
  have hend := lastLineAt_lt_length context.ruler hi
  rw [lastLineAt] at hend
  rw [nodeAt?, nodeAt?, definitionAt?_append_left _ hi, depthAt_append_left _ hi, hdrop,
    blockLength_append hcloses, enclosingId_append_left _ _ (Nat.le_of_lt hi)]
  refine congrArg (Option.map · _) (funext fun definition => ?_)
  simp only [Definition.toNode, hcount, ← Int.natCast_add]
  rw [snippetOf_natCast, snippetOf_natCast, slice_append_left _ _ (by omega) (by omega)]

/-- The nodes of the first text are those that it has by itself, if the second starts with a
    definition that is not indented. -/
theorem filterMap_nodeAt?_append_left {tabWidth : Int}
    (hruler : context.ruler = .ofTabWidth tabWidth) (htab : 0 ≤ tabWidth)
    (hsnippet : 0 ≤ context.snippetLines) (first : List Line)
    (hopens : (definitionAt? second 0).isSome)
    (hmargin : depthAt (.ofTabWidth tabWidth) second 0 = 0) :
    (definitionLines first).filterMap (nodeAt? context (first ++ second))
      = (definitionLines first).filterMap (nodeAt? context first) := by
  cases second with
  | nil => cases hopens
  | cons line rest =>
    obtain ⟨found, hfound, hcode⟩ := exists_line_of_definitionAt? hopens
    obtain rfl := Option.some.inj hfound
    refine List.filterMap_congr fun i hi => nodeAt?_append_left ?_ ?_ hsnippet
    · exact lt_length_of_definitionAt? (mem_definitionLines_iff.1 hi)
    · -- the line is at the margin, where it ends every block
      have hright := depthAt_nonneg htab first i
      rw [depthAt_eq hfound] at hmargin
      rw [closesBlock, hcode, hruler, hmargin, Bool.true_and, decide_eq_true_iff]
      exact hright

end First

/-! ## Nodes of the second text -/

section Second

variable {context : ScanContext Int} {first second : List Line} {i : Nat}

theorem lastLineAt_append_right (ruler : Ruler Int) (first second : List Line) (i : Nat) :
    lastLineAt ruler (first ++ second) (first.length + i)
      = first.length + lastLineAt ruler second i := by
  rw [lastLineAt, lastLineAt, depthAt_append_right, Nat.add_assoc first.length i 1,
    List.drop_length_add_append, Nat.add_assoc]

/-- If the second text starts with a definition that is not indented, its definitions stand below
    the first text as they stand in it. -/
theorem isPlacement_append {tabWidth : Int} (htab : 0 ≤ tabWidth) (first : List Line)
    (hopens : (definitionAt? second 0).isSome)
    (hmargin : depthAt (.ofTabWidth tabWidth) second 0 = 0) :
    IsPlacement (.ofTabWidth tabWidth) (.ofTabWidth tabWidth) second (first ++ second)
      (first.length + ·) where
  definitionAt?_eq i _ := definitionAt?_append_right first second i
  lt_of_lt i j _ _ hij := Nat.add_lt_add_left hij _
  le_iff i j _ _ := by rw [depthAt_append_right, depthAt_append_right]
  placed_or_above k hk := by
    rcases Nat.lt_or_ge k first.length with hlt | hge
    · refine .inr fun i _ => ⟨Nat.lt_of_lt_of_le hlt (Nat.le_add_right _ _), ?_⟩
      rintro ⟨-, -, hshallower, hlast⟩
      -- the first definition below is no deeper than the line, and deeper than nothing above
      have hfirst : depthAt (.ofTabWidth tabWidth) (first ++ second) (first.length + i) ≤ 0 := by
        rcases Nat.eq_zero_or_pos i with rfl | hpos
        · rw [depthAt_append_right, hmargin]
        · have hle := hlast first.length hlt (by omega)
            (by rw [← Nat.add_zero first.length, definitionAt?_append_right]; exact hopens)
          rwa [← Nat.add_zero first.length, depthAt_append_right first second 0, hmargin] at hle
      have hright := depthAt_nonneg htab (first ++ second) k
      omega
    · obtain ⟨i, rfl⟩ := Nat.exists_eq_add_of_le hge
      exact .inl ⟨i, definitionAt?_append_right first second i ▸ hk, rfl⟩

/-- A node as it is when its definition stands some lines further down. -/
structure Node.IsMovedDown (count : Nat) (node moved : Node) : Prop where
  startLine_eq : moved.startLine = node.startLine + count
  endLine_eq : moved.endLine = node.endLine.map (· + (count : Int))
  snippet_eq : moved.snippet = node.snippet
  id_eq : node.id = definitionId node.kind node.sourcePath node.startLine node.label
  movedId_eq : moved.id = definitionId node.kind node.sourcePath (node.startLine + count) node.label

/-- The node of a line of the second text is moved down by the lines of the first. -/
theorem isMovedDown_append (hsnippet : 0 ≤ context.snippetLines) {node moved : Node}
    (hnode : nodeAt? context second i = some node)
    (hmoved : nodeAt? context (first ++ second) (first.length + i) = some moved) :
    node.IsMovedDown first.length moved := by
  obtain ⟨count, hcount⟩ := Int.eq_ofNat_of_zero_le hsnippet
  obtain ⟨hstart, hend⟩ := range_of_nodeAt? hnode
  obtain ⟨hmovedStart, hmovedEnd⟩ := range_of_nodeAt? hmoved
  have hi := lt_length_of_definitionAt? (isSome_definitionAt?_of_nodeAt? hnode)
  have hlast := lastLineAt_lt_length context.ruler hi
  refine ⟨?_, ?_, ?_, ?_, ?_⟩
  · rw [hmovedStart, hstart, Int.natCast_add, Int.add_comm]
  · rw [hmovedEnd, hend, lastLineAt_append_right, Option.map_some, Int.natCast_add, Int.add_comm]
  · rw [snippet_of_nodeAt? hmoved, snippet_of_nodeAt? hnode, lastLineAt_append_right, hcount,
      snippetOf_natCast, snippetOf_natCast]
    have hstop : min (first.length + lastLineAt context.ruler second i + 1)
        (first.length + i + count)
        = first.length + min (lastLineAt context.ruler second i + 1) (i + count) := by omega
    rw [hstop, slice_append_right _ _ (by omega) (by omega)]
  · obtain ⟨definition, -, rfl⟩ := nodeAt?_eq_some_iff.1 hnode
    rfl
  · obtain ⟨definition, hdefinition, rfl⟩ := nodeAt?_eq_some_iff.1 hnode
    obtain ⟨definition', hdefinition', rfl⟩ := nodeAt?_eq_some_iff.1 hmoved
    rw [definitionAt?_append_right, hdefinition] at hdefinition'
    obtain rfl := Option.some.inj hdefinition'
    simp only [Definition.toNode, Int.natCast_add, Int.add_comm]

end Second

/-! ## Both texts -/

theorem head?_ne_feed {text : List Char} (hopens : (definitionAt? (splitLines text) 0).isSome) :
    text.head? ≠ some '\n' := by
  intro hfeed
  cases text with
  | nil => cases hfeed
  | cons c rest =>
    have hnone : Definition.ofLine? [] = none := by decide
    rw [Option.some.inj hfeed, splitLines] at hopens
    simp [definitionAt?, hnone] at hopens

/-- **A definition at the margin starts anew.** If a text ends in a line break or is empty, and the
    first line of a second one opens a definition and is not indented, the outline of both together
    is that of the first followed by that of the second moved down by the lines of the first. -/
theorem outline_append {tabWidth snippetLines : Int} (sourcePath fileId : String)
    {first second : String} (htab : 0 ≤ tabWidth) (hsnippet : 0 ≤ snippetLines)
    (hends : EndsLine first.toList)
    (hopens : (definitionAt? (splitLines second.toList) 0).isSome)
    (hmargin : depthAt (.ofTabWidth tabWidth) (splitLines second.toList) 0 = 0) :
    let context : ScanContext Int :=
      { ruler := .ofTabWidth tabWidth, snippetLines, sourcePath, fileId }
    ∃ pairs, outline context (first ++ second) = outline context first ++ pairs.map Prod.snd ∧
      IsMatching fileId pairs (outline context second) (pairs.map Prod.snd) ∧
      ∀ pair ∈ pairs, pair.1.IsMovedDown (splitLines first.toList).length pair.2 := by
  intro context
  have hlines : splitLines (first ++ second).toList
      = splitLines first.toList ++ splitLines second.toList := by
    rw [String.toList_append]
    exact splitLines_append hends (head?_ne_feed hopens)
  have hplacement := isPlacement_append htab (splitLines first.toList) hopens hmargin
  have hmatching := hplacement.isMatching context context rfl rfl
  refine ⟨(definitionLines (splitLines second.toList)).filterMap (pairAt? context context
    (splitLines second.toList) (splitLines first.toList ++ splitLines second.toList)
    ((splitLines first.toList).length + ·)), ?_, ?_, fun pair hpair => ?_⟩
  · rw [outline_eq_filterMap_definitionLines, hlines, definitionLines_append,
      List.filterMap_append, List.filterMap_map, hmatching.map_snd,
      filterMap_nodeAt?_append_left rfl htab hsnippet _ hopens hmargin,
      outline_eq_filterMap_definitionLines]
    rfl
  · rw [outline_eq_filterMap_definitionLines, hmatching.map_snd]
    exact hmatching
  · obtain ⟨i, hnode, hmoved⟩ := mem_pairs_iff.1 hpair
    exact isMovedDown_append hsnippet hnode hmoved

/-- A method that is still open at the end of the first text does not enclose the class that the
    second starts with. -/
theorem outline_append_openMethod :
    let first := "class A:\r\n\tdef f(self):\r\n\t\tpass\r"
    let second := "class B:\n    def g(self):\n        pass"
    let context : ScanContext Int :=
      { ruler := .ofTabWidth 4, snippetLines := 2, sourcePath := "ab.py", fileId := "file:ab.py" }
    EndsLine first.toList ∧ (definitionAt? (splitLines second.toList) 0).isSome ∧
    depthAt (.ofTabWidth 4) (splitLines second.toList) 0 = 0 ∧
    ∃ pairs, outline context (first ++ second) = outline context first ++ pairs.map Prod.snd ∧
      IsMatching "file:ab.py" pairs (outline context second) (pairs.map Prod.snd) ∧
      ∀ pair ∈ pairs, pair.1.IsMovedDown (splitLines first.toList).length pair.2 := by
  intro first second context
  have hends : EndsLine first.toList := by simp [EndsLine, first]
  have hopens : (definitionAt? (splitLines second.toList) 0).isSome := by decide +kernel
  have hmargin : depthAt (.ofTabWidth 4) (splitLines second.toList) 0 = 0 := by decide +kernel
  exact ⟨hends, hopens, hmargin,
    outline_append "ab.py" "file:ab.py" (by decide) (by decide) hends hopens hmargin⟩

end SourceOutline
