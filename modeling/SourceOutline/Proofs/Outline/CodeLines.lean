import SourceOutline.Proofs.Outline.Extent
import SourceOutline.Proofs.Outline.Placement
import SourceOutline.Proofs.Text.Line

set_option autoImplicit false

/-! # Outlines of the code alone

Lines without code neither open definitions nor end blocks, so nothing changes in an outline but the
numbers of lines when they are left out: a line of code is then on the line that its rank among the
code lines says. A block still counts the lines without code that stand between its last code and
what ends it, and that last code line is where it ends in the reduced text. Main statement:
`outline_codeLines`. -/

namespace SourceOutline

/-! ## The rank of a line -/

/-- How many lines before an index hold code. -/
def codeRank (lines : List Line) (i : Nat) : Nat :=
  (lines.take i).countP isCode

/-- A line is the last one up to an index that holds code. -/
structure IsLastCode (lines : List Line) (last i : Nat) : Prop where
  le_last : i ≤ last
  isCode : isCode (lines.getD i []) = true
  not_isCode : ∀ k, i < k → k ≤ last → SourceOutline.isCode (lines.getD k []) = false

section Rank

variable {lines : List Line} {line : Line} {i j k last : Nat}

theorem codeRank_le_codeRank (h : i ≤ j) : codeRank lines i ≤ codeRank lines j :=
  (List.take_sublist_take_left h).countP_le

theorem codeRank_lt_codeRank (hij : i < j) (hline : lines[i]? = some line)
    (hcode : isCode line = true) : codeRank lines i < codeRank lines j := by
  have hnext : codeRank lines (i + 1) = codeRank lines i + 1 := by
    simp [codeRank, List.take_add_one, hline, hcode]
  calc codeRank lines i < codeRank lines (i + 1) := by omega
    _ ≤ codeRank lines j := codeRank_le_codeRank hij

theorem getElem?_filter_codeRank (hline : lines[i]? = some line) (hcode : isCode line = true) :
    (lines.filter isCode)[codeRank lines i]? = some line := by
  obtain ⟨hi, rfl⟩ := List.getElem?_eq_some_iff.1 hline
  have hsplit : lines.filter isCode
      = (lines.take i).filter isCode ++ lines[i] :: (lines.drop (i + 1)).filter isCode := by
    rw [← List.filter_cons_of_pos hcode, ← List.drop_eq_getElem_cons hi, ← List.filter_append,
      List.take_append_drop]
  rw [hsplit, codeRank, List.countP_eq_length_filter, List.getElem?_append_right (Nat.le_refl _),
    Nat.sub_self, List.getElem?_cons_zero]

theorem exists_codeRank_eq (h : k < (lines.filter isCode).length) :
    ∃ i line, lines[i]? = some line ∧ isCode line = true ∧ codeRank lines i = k := by
  induction lines generalizing k with
  | nil => exact absurd h (Nat.not_lt_zero k)
  | cons first rest ih =>
    cases hfirst : isCode first with
    | false =>
      rw [List.filter_cons_of_neg (by simp [hfirst])] at h
      obtain ⟨i, line, hline, hcode, hrank⟩ := ih h
      refine ⟨i + 1, line, hline, hcode, ?_⟩
      rw [← hrank]
      simp [codeRank, hfirst]
    | true =>
      rw [List.filter_cons_of_pos hfirst, List.length_cons] at h
      cases k with
      | zero => exact ⟨0, first, rfl, hfirst, rfl⟩
      | succ k =>
        obtain ⟨i, line, hline, hcode, hrank⟩ := ih (Nat.lt_of_succ_lt_succ h)
        refine ⟨i + 1, line, hline, hcode, ?_⟩
        rw [← hrank]
        simp [codeRank, hfirst]

theorem exists_isLastCode (hline : lines[i]? = some line) (hcode : isCode line = true)
    (hlast : i ≤ last) : ∃ k, i ≤ k ∧ IsLastCode lines last k := by
  induction last, hlast using Nat.le_induction with
  | base =>
    refine ⟨i, Nat.le_refl i, Nat.le_refl i, ?_, fun k hlow hhigh => by omega⟩
    rw [isCode_getD_eq hline, hcode]
  | succ last hlast ih =>
    cases hnext : isCode (lines.getD (last + 1) []) with
    | true =>
      exact ⟨last + 1, by omega, Nat.le_refl _, hnext, fun k hlow hhigh => by omega⟩
    | false =>
      obtain ⟨k, hik, hk⟩ := ih
      refine ⟨k, hik, Nat.le_succ_of_le hk.le_last, hk.isCode, fun m hlow hhigh => ?_⟩
      rcases Nat.le_succ_iff.1 hhigh with hle | rfl
      · exact hk.not_isCode m hlow hle
      · exact hnext

end Rank

/-! ## Definitions and blocks of the code -/

section Code

variable {ruler : Ruler Int} {lines : List Line} {line : Line} {i k m : Nat}

theorem depthAt_codeRank (hline : lines[i]? = some line) (hcode : isCode line = true) :
    depthAt ruler (lines.filter isCode) (codeRank lines i) = depthAt ruler lines i := by
  rw [depthAt_eq (getElem?_filter_codeRank hline hcode), depthAt_eq hline]

theorem definitionAt?_codeRank (hline : lines[i]? = some line) (hcode : isCode line = true) :
    definitionAt? (lines.filter isCode) (codeRank lines i) = definitionAt? lines i := by
  rw [definitionAt?, definitionAt?, getElem?_filter_codeRank hline hcode, hline]

theorem exists_definitionAt?_of_codeRank (h : (definitionAt? (lines.filter isCode) k).isSome) :
    ∃ i, (definitionAt? lines i).isSome ∧ codeRank lines i = k := by
  obtain ⟨found, hfound, -⟩ := exists_line_of_definitionAt? h
  obtain ⟨i, line, hline, hcode, rfl⟩ := exists_codeRank_eq (List.getElem?_eq_some_iff.1 hfound).1
  exact ⟨i, definitionAt?_codeRank hline hcode ▸ h, rfl⟩

/-- The definitions of a text are placed at their ranks among the code lines. -/
theorem isPlacement_codeRank (ruler : Ruler Int) (lines : List Line) :
    IsPlacement ruler ruler lines (lines.filter isCode) (codeRank lines) where
  definitionAt?_eq i hi := by
    obtain ⟨line, hline, hcode⟩ := exists_line_of_definitionAt? hi
    exact definitionAt?_codeRank hline hcode
  lt_of_lt i j hi _ hij := by
    obtain ⟨line, hline, hcode⟩ := exists_line_of_definitionAt? hi
    exact codeRank_lt_codeRank hij hline hcode
  le_iff i j hi hj := by
    obtain ⟨line, hline, hcode⟩ := exists_line_of_definitionAt? hi
    obtain ⟨other, hother, hotherCode⟩ := exists_line_of_definitionAt? hj
    rw [depthAt_codeRank hline hcode, depthAt_codeRank hother hotherCode]
  placed_or_above k hk := .inl (exists_definitionAt?_of_codeRank hk)

/-- A line of code is in a block of the text if it is in that block of the code. -/
theorem codeRank_le_lastLineAt_iff {other : Line} (hline : lines[i]? = some line)
    (hcode : isCode line = true) (hik : i < k) (hother : lines[k]? = some other)
    (hotherCode : isCode other = true) :
    codeRank lines k ≤ lastLineAt ruler (lines.filter isCode) (codeRank lines i) ↔
      k ≤ lastLineAt ruler lines i := by
  have hrank := getElem?_filter_codeRank hother hotherCode
  rw [le_lastLineAt_iff_deeper (codeRank_lt_codeRank hik hline hcode)
      (List.getElem?_eq_some_iff.1 hrank).1,
    le_lastLineAt_iff_deeper hik (List.getElem?_eq_some_iff.1 hother).1,
    depthAt_codeRank hline hcode]
  constructor
  · intro hdeeper m found hlow hhigh hm hmCode
    exact hdeeper (codeRank lines m) found (codeRank_lt_codeRank hlow hline hcode)
      (codeRank_le_codeRank hhigh) (getElem?_filter_codeRank hm hmCode) hmCode
  · intro hdeeper m found hlow hhigh hm hmCode
    -- a line of the code comes from a line of the text between the same lines
    obtain ⟨m, source, hsource, hsourceCode, rfl⟩ :=
      exists_codeRank_eq (List.getElem?_eq_some_iff.1 hm).1
    rw [getElem?_filter_codeRank hsource hsourceCode] at hm
    obtain rfl := Option.some.inj hm
    refine hdeeper m source ?_ ?_ hsource hsourceCode
    · exact Nat.lt_of_not_le fun hle => Nat.not_lt.2 (codeRank_le_codeRank hle) hlow
    · refine Nat.le_of_not_lt fun hlt => ?_
      exact Nat.not_lt.2 hhigh (codeRank_lt_codeRank hlt hother hotherCode)

/-- A block of the code ends at the rank of the last code line of the block of the text. -/
theorem lastLineAt_codeRank (hline : lines[i]? = some line) (hcode : isCode line = true)
    (him : i ≤ m) (hm : IsLastCode lines (lastLineAt ruler lines i) m) :
    lastLineAt ruler (lines.filter isCode) (codeRank lines i) = codeRank lines m := by
  refine Nat.le_antisymm ?_ ?_
  · rcases Nat.eq_or_lt_of_le
      (le_lastLineAt ruler (lines.filter isCode) (codeRank lines i)) with heq | hlt
    · rw [← heq]
      exact codeRank_le_codeRank him
    · have hlength := ((le_lastLineAt_iff hlt).1 (Nat.le_refl _)).1
      obtain ⟨k, other, hother, hotherCode, hk⟩ := exists_codeRank_eq hlength
      rw [← hk] at hlt ⊢
      have hik : i < k :=
        Nat.lt_of_not_le fun hle => Nat.not_lt.2 (codeRank_le_codeRank hle) hlt
      have hin := (codeRank_le_lastLineAt_iff hline hcode hik hother hotherCode).1
        (Nat.le_of_eq hk)
      refine codeRank_le_codeRank (Nat.le_of_not_lt fun hmk => ?_)
      have hnone := hm.not_isCode k hmk hin
      rw [isCode_getD_eq hother, hotherCode] at hnone
      exact absurd hnone (by decide)
  · rcases Nat.eq_or_lt_of_le him with rfl | hlt
    · exact le_lastLineAt _ _ _
    · obtain ⟨other, hother, hotherCode⟩ := exists_line_of_isCode hm.isCode
      exact (codeRank_le_lastLineAt_iff hline hcode hlt hother hotherCode).2 hm.le_last

end Code

/-! ## The reduced text -/

/-- The code lines of a text, joined, are the lines of a text. -/
theorem splitLines_codeLines (text : List Char) :
    splitLines (joinLines ((splitLines text).filter isCode)) = (splitLines text).filter isCode := by
  refine splitLines_joinLines fun line hline => ?_
  obtain ⟨hmem, hcode⟩ := List.mem_filter.1 hline
  refine ⟨?_, break_notMem_of_mem_splitLines hmem⟩
  rintro rfl
  exact absurd hcode (by decide)

/-- **Lines without code do not matter.** The outline of a text and the outline of its code lines,
    joined with line feeds, go together node by node, whatever a tab counts for. A block of the code
    starts at the rank of its first line among the code lines, and ends at the rank of the last code
    line of the block of the text. -/
theorem outline_codeLines (tabWidth snippetLines : Int) (sourcePath fileId source : String) :
    let context : ScanContext Int :=
      { ruler := .ofTabWidth tabWidth, snippetLines, sourcePath, fileId }
    let lines := splitLines source.toList
    let code := String.ofList (joinLines (lines.filter isCode))
    ∃ pairs, IsMatching fileId pairs (outline context source) (outline context code) ∧
      ∀ pair ∈ pairs, ∃ first last lastCode : Nat,
        pair.1.startLine = first ∧ pair.1.endLine = some (last : Int) ∧
        IsLastCode lines last lastCode ∧
        pair.2.startLine = codeRank lines first ∧
        pair.2.endLine = some (codeRank lines lastCode : Int) := by
  intro context lines code
  have hplacement := isPlacement_codeRank context.ruler lines
  have hcode : splitLines code.toList = lines.filter isCode := by
    rw [String.toList_ofList]
    exact splitLines_codeLines source.toList
  have hreduced : outline context code = (definitionLines lines).filterMap fun i =>
      nodeAt? context (lines.filter isCode) (codeRank lines i) := by
    rw [outline_eq_filterMap_definitionLines, hcode,
      hplacement.definitionLines_eq fun k => exists_definitionAt?_of_codeRank, List.filterMap_map]
    rfl
  have hmatching := hplacement.isMatching context context rfl rfl
  rw [← hreduced, ← outline_eq_filterMap_definitionLines] at hmatching
  refine ⟨_, hmatching, fun pair hpair => ?_⟩
  obtain ⟨i, hnode, hplaced⟩ := mem_pairs_iff.1 hpair
  obtain ⟨hstart, hend⟩ := range_of_nodeAt? hnode
  obtain ⟨hplacedStart, hplacedEnd⟩ := range_of_nodeAt? hplaced
  obtain ⟨line, hline, hlineCode⟩ := exists_line_of_nodeAt? hnode
  obtain ⟨m, him, hm⟩ := exists_isLastCode hline hlineCode (le_lastLineAt context.ruler lines i)
  rw [lastLineAt_codeRank hline hlineCode him hm] at hplacedEnd
  exact ⟨i, _, m, hstart, hend, hm, hplacedStart, hplacedEnd⟩

end SourceOutline
