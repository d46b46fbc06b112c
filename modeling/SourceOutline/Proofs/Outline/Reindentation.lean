import Mathlib.Data.Int.ConditionallyCompleteOrder
import Mathlib.Order.ConditionallyCompleteLattice.Basic
import SourceOutline.Proofs.Outline.Comparison
import SourceOutline.Proofs.Outline.Extent
import SourceOutline.Proofs.Outline.Placement

set_option autoImplicit false

/-! # Outlines of texts that are indented in another way

Of the depths in a text only their order matters, and only that of code lines. A text that is
indented in another way, possibly measured with another width for tabs, therefore has the same
outline as long as the order is kept (`outline_of_sameOrder`): definitions are read off the trimmed
lines, and a block or a scope compares its depth with that of other code lines only. The scope of
the file is never compared, so depths may well be less than the one that stands for it, as they are
where tabs count backwards. -/

namespace SourceOutline

/-! ## Texts that differ in their indentation -/

/-- Two texts have the same lines but for the blanks around them, and their code lines are indented
    in the same order. -/
structure IsReindented (ruler other : Ruler Int) (lines others : List Line) : Prop where
  map_trim : lines.map trim = others.map trim
  le_iff : ∀ i j, isCode (lines.getD i []) = true → isCode (lines.getD j []) = true →
    (depthAt ruler lines i ≤ depthAt ruler lines j ↔
      depthAt other others i ≤ depthAt other others j)

namespace IsReindented

variable {ruler other : Ruler Int} {lines others : List Line} {i j k : Nat}

theorem getElem?_map_trim (h : IsReindented ruler other lines others) (i : Nat) :
    lines[i]?.map trim = others[i]?.map trim := by
  rw [← List.getElem?_map, ← List.getElem?_map, h.map_trim]

/-- Whether a line holds code is told by what is left of it when it is trimmed. -/
theorem isCode_congr {line found : Line} (h : trim line = trim found) :
    isCode line = isCode found := by
  simp only [isCode, h]

theorem isCode_getD (h : IsReindented ruler other lines others) (i : Nat) :
    isCode (others.getD i []) = isCode (lines.getD i []) := by
  have htrim := h.getElem?_map_trim i
  rw [List.getD_eq_getElem?_getD, List.getD_eq_getElem?_getD]
  cases hline : lines[i]? with
  | none =>
    rw [hline, Option.map_none] at htrim
    rw [Option.map_eq_none_iff.1 htrim.symm]
  | some line =>
    rw [hline, Option.map_some] at htrim
    obtain ⟨found, hfound, hsame⟩ := Option.map_eq_some_iff.1 htrim.symm
    rw [hfound]
    exact isCode_congr hsame

theorem symm (h : IsReindented ruler other lines others) :
    IsReindented other ruler others lines where
  map_trim := h.map_trim.symm
  le_iff i j hi hj := by
    rw [h.isCode_getD] at hi hj
    exact (h.le_iff i j hi hj).symm

theorem definitionAt?_eq (h : IsReindented ruler other lines others) (i : Nat) :
    definitionAt? others i = definitionAt? lines i := by
  have htrim := h.getElem?_map_trim i
  cases hline : lines[i]? with
  | none =>
    rw [hline, Option.map_none] at htrim
    rw [definitionAt?, definitionAt?, Option.map_eq_none_iff.1 htrim.symm, hline]
  | some line =>
    rw [hline, Option.map_some] at htrim
    obtain ⟨found, hfound, hsame⟩ := Option.map_eq_some_iff.1 htrim.symm
    rw [definitionAt?, definitionAt?, hfound, hline]
    simp only [Option.bind_some, Definition.ofLine?, hsame]

theorem isPlacement (h : IsReindented ruler other lines others) :
    IsPlacement ruler other lines others id where
  definitionAt?_eq i _ := h.definitionAt?_eq i
  lt_of_lt _ _ _ _ hij := hij
  le_iff i j hi hj := (h.le_iff i j (isCode_getD_of_definitionAt? hi)
    (isCode_getD_of_definitionAt? hj)).symm
  placed_or_above k hk := .inl ⟨k, h.definitionAt?_eq k ▸ hk, rfl⟩

theorem le_lastLineAt (h : IsReindented ruler other lines others)
    (hi : isCode (lines.getD i []) = true) (hik : i < k)
    (hin : k ≤ lastLineAt ruler lines i) : k ≤ lastLineAt other others i := by
  have hlength : lines.length = others.length := by simpa using congrArg List.length h.map_trim
  have hk := ((le_lastLineAt_iff hik).1 hin).1
  rw [le_lastLineAt_iff_deeper hik hk] at hin
  rw [le_lastLineAt_iff_deeper hik (hlength ▸ hk)]
  intro m found hlow hhigh hfound hcode
  have hm : isCode (lines.getD m []) = true := by
    rw [← h.isCode_getD, isCode_getD_eq hfound, hcode]
  obtain ⟨line, hline, hlineCode⟩ := exists_line_of_isCode hm
  have hdeeper := hin m line hlow hhigh hline hlineCode
  rwa [← depthAt_eq hline, ← Int.not_le, h.le_iff m i hm hi, Int.not_le, depthAt_eq hfound]
    at hdeeper

theorem lastLineAt_eq (h : IsReindented ruler other lines others)
    (hi : isCode (lines.getD i []) = true) :
    lastLineAt other others i = lastLineAt ruler lines i := by
  have hother : isCode (others.getD i []) = true := h.isCode_getD i ▸ hi
  refine Nat.le_antisymm ?_ ?_
  · rcases Nat.eq_or_lt_of_le (SourceOutline.le_lastLineAt other others i) with heq | hlt
    · rw [← heq]
      exact SourceOutline.le_lastLineAt ruler lines i
    · exact h.symm.le_lastLineAt hother hlt (Nat.le_refl _)
  · rcases Nat.eq_or_lt_of_le (SourceOutline.le_lastLineAt ruler lines i) with heq | hlt
    · rw [← heq]
      exact SourceOutline.le_lastLineAt other others i
    · exact h.le_lastLineAt hi hlt (Nat.le_refl _)

end IsReindented

/-! ## Nodes but for their snippets -/

/-- A node without its snippet. -/
def Node.withoutSnippet (node : Node) : Node :=
  { node with snippet := none }

section Nodes

variable {context other : ScanContext Int} {lines others : List Line} {i : Nat}

/-- The nodes of a line of both texts differ in their snippets at most. -/
theorem IsReindented.withoutSnippet_eq
    (h : IsReindented context.ruler other.ruler lines others)
    (hpath : other.sourcePath = context.sourcePath) (hfile : other.fileId = context.fileId)
    {node found : Node} (hnode : nodeAt? context lines i = some node)
    (hfound : nodeAt? other others i = some found) :
    found.withoutSnippet = node.withoutSnippet := by
  have hids : ∀ j, idAt? other others j = idAt? context lines j := by
    intro j
    rw [idAt?, idAt?, h.definitionAt?_eq j, hpath]
  have hparent : found.parentId = node.parentId := by
    rcases h.isPlacement.parents hfile hnode hfound with
      ⟨hnodeFile, hfoundFile⟩ | ⟨j, parent, foundParent, hparent, hfoundParent, hid, hfoundId⟩
    · rw [hnodeFile, hfoundFile]
    · rw [hid, hfoundId, ← idAt?_of_nodeAt? hparent, ← hids j, ← idAt?_of_nodeAt? hfoundParent]
      rfl
  have hid : found.id = node.id := by
    apply Option.some.inj
    rw [← idAt?_of_nodeAt? hnode, ← idAt?_of_nodeAt? hfound, hids i]
  have hend : found.endLine = node.endLine := by
    have hcode := isCode_getD_of_definitionAt? (isSome_definitionAt?_of_nodeAt? hnode)
    rw [(range_of_nodeAt? hnode).2, (range_of_nodeAt? hfound).2, h.lastLineAt_eq hcode]
  obtain ⟨hlabel, hkind⟩ := h.isPlacement.label_kind_eq hnode hfound
  have hstart : found.startLine = node.startLine := by
    rw [(range_of_nodeAt? hnode).1, (range_of_nodeAt? hfound).1]
  have hsource : found.sourcePath = node.sourcePath := by
    rw [sourcePath_of_nodeAt? hnode, sourcePath_of_nodeAt? hfound, hpath]
  simp only [Node.withoutSnippet, hid, hlabel, hkind, hsource, hstart, hend, hparent]

theorem IsReindented.map_withoutSnippet (h : IsReindented context.ruler other.ruler lines others)
    (hpath : other.sourcePath = context.sourcePath) (hfile : other.fileId = context.fileId) :
    ((definitionLines lines).filterMap (nodeAt? context lines)).map Node.withoutSnippet
      = ((definitionLines others).filterMap (nodeAt? other others)).map Node.withoutSnippet := by
  have hlines : definitionLines others = definitionLines lines := by
    rw [h.isPlacement.definitionLines_eq fun k hk => ⟨k, h.definitionAt?_eq k ▸ hk, rfl⟩,
      List.map_id]
  rw [hlines, List.map_filterMap, List.map_filterMap]
  refine List.filterMap_congr fun i hi => ?_
  have hopens := mem_definitionLines_iff.1 hi
  obtain ⟨node, hnode⟩ := exists_nodeAt? context hopens
  obtain ⟨found, hfound⟩ := exists_nodeAt? other (h.definitionAt?_eq i ▸ hopens)
  rw [hnode, hfound, Option.map_some, Option.map_some, h.withoutSnippet_eq hpath hfile hnode hfound]

end Nodes

/-! ## Ways to indent a text anew -/

/-- The depths of the code lines of a text. -/
def codeDepths (ruler : Ruler Int) (lines : List Line) : Set Int :=
  {depth | ∃ i, isCode (lines.getD i []) = true ∧ depthAt ruler lines i = depth}

/-- A line with each of the tabs that it starts with written as so many spaces. -/
def indentWithSpaces (width : Nat) : Line → Line
  | '\t' :: rest => List.replicate width ' ' ++ indentWithSpaces width rest
  | ' ' :: rest => ' ' :: indentWithSpaces width rest
  | rest => rest

theorem trim_indentWithSpaces (width : Nat) (line : Line) :
    trim (indentWithSpaces width line) = trim line := by
  have hleft : trimLeft (indentWithSpaces width line) = trimLeft line := by
    have hspace : isBlank ' ' = true := by decide
    have htab : isBlank '\t' = true := by decide
    fun_induction indentWithSpaces width line with
    | case1 rest ih =>
      rw [trimLeft] at ih ⊢
      rw [List.dropWhile_append_of_pos, ih, trimLeft, trimLeft, List.dropWhile_cons_of_pos htab]
      intro c hc
      rw [List.eq_of_mem_replicate hc, hspace]
    | case2 rest ih =>
      rw [trimLeft] at ih ⊢
      rw [List.dropWhile_cons_of_pos hspace, ih, trimLeft, trimLeft,
        List.dropWhile_cons_of_pos hspace]
    | case3 rest hnoTab hnoSpace => rfl
  rw [trim, trim, hleft]

/-- Spaces at the start of a line move it to the right by their number, whatever a tab counts
    for. -/
theorem advance_replicate (tabWidth depth : Int) (count : Nat) (rest : Line) :
    (Ruler.ofTabWidth tabWidth).advance depth (List.replicate count ' ' ++ rest)
      = (Ruler.ofTabWidth tabWidth).advance (depth + count) rest := by
  induction count generalizing depth with
  | zero => simp
  | succ count ih =>
    rw [List.replicate_succ, List.cons_append, Ruler.advance, ih]
    congr 1
    simp only [Ruler.ofTabWidth, Int.natCast_add, Int.natCast_one]
    omega

/-- Tabs written as spaces lead to the same depth, whatever a tab counts for afterwards. -/
theorem indentation_indentWithSpaces (width : Nat) (tabWidth : Int) (line : Line) :
    (Ruler.ofTabWidth tabWidth).indentation (indentWithSpaces width line)
      = (Ruler.ofTabWidth width).indentation line := by
  have hadvance : ∀ depth, (Ruler.ofTabWidth tabWidth).advance depth (indentWithSpaces width line)
      = (Ruler.ofTabWidth width).advance depth line := by
    fun_induction indentWithSpaces width line with
    | case1 rest ih =>
      intro depth
      rw [advance_replicate, Ruler.advance, ih]
      rfl
    | case2 rest ih =>
      intro depth
      rw [Ruler.advance, Ruler.advance, ih]
      rfl
    | case3 rest hnoTab hnoSpace =>
      intro depth
      rw [Ruler.advance.eq_3 _ _ _ hnoSpace hnoTab, Ruler.advance.eq_3 _ _ _ hnoSpace hnoTab]
  exact hadvance 0

namespace IsReindented

variable {ruler other : Ruler Int} {lines others : List Line}

/-- Depths are in the same order if every depth has grown or shrunk to one of its own, and none has
    come up with a greater one. -/
theorem of_strictMonoOn {step : Int → Int} (hstep : StrictMonoOn step (codeDepths ruler lines))
    (htrim : lines.map trim = others.map trim)
    (hdepth : ∀ i, isCode (lines.getD i []) = true →
      depthAt other others i = step (depthAt ruler lines i)) :
    IsReindented ruler other lines others where
  map_trim := htrim
  le_iff i j hi hj := by
    rw [hdepth i hi, hdepth j hj, hstep.le_iff_le ⟨i, hi, rfl⟩ ⟨j, hj, rfl⟩]

theorem indentWithSpaces (width : Nat) (tabWidth : Int) (lines : List Line) :
    IsReindented (.ofTabWidth width) (.ofTabWidth tabWidth) lines
      (lines.map (SourceOutline.indentWithSpaces width)) := by
  refine of_strictMonoOn (strictMono_id.strictMonoOn _) ?_ fun i hi => ?_
  · rw [List.map_map]
    exact List.map_congr_left fun line _ => (trim_indentWithSpaces width line).symm
  · obtain ⟨line, hline, -⟩ := exists_line_of_isCode hi
    have hexpanded : (lines.map (SourceOutline.indentWithSpaces width))[i]?
        = some (SourceOutline.indentWithSpaces width line) := by
      rw [List.getElem?_map, hline, Option.map_some]
    rw [depthAt_eq hexpanded, depthAt_eq hline, indentation_indentWithSpaces]
    rfl

end IsReindented

/-! ## The same outline -/

/-- Two texts have the same outlines but for the snippets, each with its own width of tabs, and
    whatever is asked for of the snippets. -/
def HaveSameOutline (tabWidth otherTabWidth : Int) (source other : String) : Prop :=
  ∀ (snippetLines otherSnippetLines : Int) (sourcePath fileId : String),
    (outline { ruler := .ofTabWidth tabWidth, snippetLines, sourcePath, fileId } source).map
        Node.withoutSnippet
      = (outline { ruler := .ofTabWidth otherTabWidth, snippetLines := otherSnippetLines,
                   sourcePath, fileId } other).map Node.withoutSnippet

/-- A text that is indented in the same order has the same outline. -/
theorem IsReindented.haveSameOutline {tabWidth otherTabWidth : Int} {source other : String}
    (h : IsReindented (.ofTabWidth tabWidth) (.ofTabWidth otherTabWidth)
      (splitLines source.toList) (splitLines other.toList)) :
    HaveSameOutline tabWidth otherTabWidth source other := by
  intro snippetLines otherSnippetLines sourcePath fileId
  rw [outline_eq_filterMap_definitionLines, outline_eq_filterMap_definitionLines]
  exact h.map_withoutSnippet rfl rfl

/-- **Only the order of depths matters.** Texts that have the same lines but for the blanks around
    them have the same outline, snippets apart, if their code lines are indented in the same order,
    whatever a tab counts for in each. That is so if every depth of code has moved to another one in
    the same order, and if the tabs that lines start with have been written as spaces. -/
theorem outline_of_sameOrder (tabWidth otherTabWidth : Int) (source other : String) :
    let ruler : Ruler Int := .ofTabWidth tabWidth
    let otherRuler : Ruler Int := .ofTabWidth otherTabWidth
    let lines := splitLines source.toList
    let others := splitLines other.toList
    (IsReindented ruler otherRuler lines others →
      HaveSameOutline tabWidth otherTabWidth source other) ∧
    (∀ step : Int → Int, StrictMonoOn step (codeDepths ruler lines) →
      lines.map trim = others.map trim →
      (∀ i, isCode (lines.getD i []) = true →
        depthAt otherRuler others i = step (depthAt ruler lines i)) →
      HaveSameOutline tabWidth otherTabWidth source other) ∧
    (∀ width : Nat, tabWidth = width → others = lines.map (indentWithSpaces width) →
      HaveSameOutline tabWidth otherTabWidth source other) := by
  intro ruler otherRuler lines others
  refine ⟨IsReindented.haveSameOutline, fun step hstep htrim hdepth => ?_,
    fun width hwidth hexpanded => ?_⟩
  · exact (IsReindented.of_strictMonoOn hstep htrim hdepth).haveSameOutline
  · subst hwidth
    have hreindented := IsReindented.indentWithSpaces width otherTabWidth lines
    rw [← hexpanded] at hreindented
    exact hreindented.haveSameOutline

/-- A text in which tabs count backwards, and one that is indented with spaces: each depth `d` of
    the former is `2 * d + 4` in the latter. And a text with its tabs written as three spaces. -/
theorem haveSameOutline_backwardTabs :
    let source := "\t\tclass A:\n\tdef f():\n\n\t pass\n\t\tdef g(): pass\n"
    let other := "class A:\n  def f():\n \n    pass\ndef g(): pass\n"
    IsReindented (.ofTabWidth (-1)) (.ofTabWidth 4) (splitLines source.toList)
      (splitLines other.toList) ∧ HaveSameOutline (-1) 4 source other ∧
    HaveSameOutline 3 0 "\tclass A:\n\t def f(): pass\n"
      "   class A:\n    def f(): pass\n" := by
  intro source other
  have htrim : (splitLines source.toList).map trim = (splitLines other.toList).map trim := by
    decide +kernel
  have hdepths : ∀ i < 5, isCode ((splitLines source.toList).getD i []) = true →
      depthAt (.ofTabWidth 4) (splitLines other.toList) i
        = 2 * depthAt (.ofTabWidth (-1)) (splitLines source.toList) i + 4 := by decide +kernel
  have hdepth : ∀ i, isCode ((splitLines source.toList).getD i []) = true →
      depthAt (.ofTabWidth 4) (splitLines other.toList) i
        = 2 * depthAt (.ofTabWidth (-1)) (splitLines source.toList) i + 4 := by
    intro i hi
    obtain ⟨line, hline, -⟩ := exists_line_of_isCode hi
    have hlength : (splitLines source.toList).length = 5 := by decide +kernel
    exact hdepths i (hlength ▸ (List.getElem?_eq_some_iff.1 hline).1) hi
  have hstep : StrictMono fun depth : Int => 2 * depth + 4 := by
    intro a b hab
    show 2 * a + 4 < 2 * b + 4
    omega
  have hreindented := IsReindented.of_strictMonoOn (hstep.strictMonoOn _) htrim hdepth
  exact ⟨hreindented, (outline_of_sameOrder (-1) 4 source other).1 hreindented,
    (outline_of_sameOrder 3 0 _ _).2.2 3 rfl (by decide +kernel)⟩

end SourceOutline
