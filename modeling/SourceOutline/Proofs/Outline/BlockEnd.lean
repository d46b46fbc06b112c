import SourceOutline.Proofs.Outline.Extent
import SourceOutline.Text.Split

set_option autoImplicit false

/-! # Where a block ends

The last line of a block is known from the lines around it alone: all code from the first line of
the block down to it is deeper than the block's depth, and the code right after it is not, if the
text goes on at all (`IsBlockEnd`). Blanks and comments at the end of a block are in it, up to that
next line. A first line has only one such end (`IsBlockEnd.unique`), and the search for the end of a
block finds it (`blockEnd?_isBlockEnd`). -/

namespace SourceOutline

/-- A line is the last one of the block that opens on line `start` at a depth: no code from there to
    it is as shallow, and the line after it, if there is one, holds code that is. -/
structure IsBlockEnd (ruler : Ruler Int) (lines : List Line) (start : Nat) (depth : Int)
    (last : Nat) : Prop where
  start_le : start ≤ last
  lt_length : last < lines.length
  deeper : ∀ k line, start < k → k ≤ last → lines[k]? = some line → isCode line = true →
    depth < ruler.indentation line
  ends : last + 1 = lines.length ∨ ∃ line, lines[last + 1]? = some line ∧ isCode line = true ∧
    ruler.indentation line ≤ depth

section

variable {ruler : Ruler Int} {lines : List Line} {start last other : Nat} {depth : Int}

theorem IsBlockEnd.le (h : IsBlockEnd ruler lines start depth last)
    (hother : IsBlockEnd ruler lines start depth other) : last ≤ other := by
  refine Nat.le_of_not_lt fun hlt => ?_
  rcases hother.ends with hlength | ⟨line, hline, hcode, hshallow⟩
  · have hlast := h.lt_length
    omega
  · -- the line after the upper end is in the block that ends further down, so it is deeper
    have hstart := hother.start_le
    have hdeeper := h.deeper (other + 1) line (by omega) hlt hline hcode
    omega

theorem IsBlockEnd.unique (h : IsBlockEnd ruler lines start depth last)
    (hother : IsBlockEnd ruler lines start depth other) : other = last :=
  Nat.le_antisymm (hother.le h) (h.le hother)

theorem closesBlock_of_getElem?_blockLength {after : List Line} {line : Line}
    (h : after[blockLength ruler depth after]? = some line) :
    closesBlock ruler depth line = true := by
  let goesOn := fun line => !closesBlock ruler depth line
  have hnext : (after.takeWhile goesOn ++ after.dropWhile goesOn)[(after.takeWhile goesOn).length]?
      = some line := by
    rw [List.takeWhile_append_dropWhile]
    exact h
  rw [List.getElem?_append_right (Nat.le_refl _), Nat.sub_self, ← List.head?_eq_getElem?] at hnext
  simpa [goesOn] using head?_dropWhile_eq_false goesOn after line hnext

theorem isBlockEnd_add_blockLength (h : start < lines.length) :
    IsBlockEnd ruler lines start depth
      (start + blockLength ruler depth (lines.drop (start + 1))) := by
  have hlength := blockLength_le ruler depth (lines.drop (start + 1))
  rw [List.length_drop] at hlength
  refine ⟨Nat.le_add_right start _, by omega, fun k line hlow hhigh hline => ?_, ?_⟩
  · have hopen := ((le_add_blockLength_iff hlow).1 hhigh).2 k line hlow (Nat.le_refl k) hline
    exact closesBlock_eq_false_iff.1 hopen
  · cases hline : lines[start + blockLength ruler depth (lines.drop (start + 1)) + 1]? with
    | none =>
      rw [List.getElem?_eq_none_iff] at hline
      exact .inl (by omega)
    | some line =>
      have hnext : (lines.drop (start + 1))[blockLength ruler depth (lines.drop (start + 1))]?
          = some line := by
        rw [List.getElem?_drop, Nat.add_right_comm]
        exact hline
      exact .inr ⟨line, rfl, closesBlock_eq_true_iff.1
        (closesBlock_of_getElem?_blockLength hnext)⟩

end

/-- **A block is as long as it can be.** For every list of lines, every depth and whatever a tab
    counts for, the block that opens on a line does not end before it, and past the text it is that
    line alone. If the text has the line, the block ends where `IsBlockEnd` says, and that is at one
    line only. -/
theorem blockEnd?_isBlockEnd (tabWidth depth : Int) (lines : List Line) (start : Nat) :
    ∃ last : Nat, blockEnd? (.ofTabWidth tabWidth) lines start depth = some (last : Int) ∧
      start ≤ last ∧ last ≤ max start (lines.length - 1) ∧
      (start < lines.length → IsBlockEnd (.ofTabWidth tabWidth) lines start depth last ∧
        ∀ other, IsBlockEnd (.ofTabWidth tabWidth) lines start depth other → other = last) := by
  have hlength := blockLength_le (.ofTabWidth tabWidth) depth (lines.drop (start + 1))
  rw [List.length_drop] at hlength
  refine ⟨start + blockLength (.ofTabWidth tabWidth) depth (lines.drop (start + 1)), rfl,
    Nat.le_add_right start _, by omega, fun hstart => ?_⟩
  have hend : IsBlockEnd (.ofTabWidth tabWidth) lines start depth _ :=
    isBlockEnd_add_blockLength hstart
  exact ⟨hend, fun other hother => hend.unique hother⟩

/-- Blanks and a comment, indented less than the block, stand at its end before the next line. -/
theorem blockEnd?_isBlockEnd_comment :
    let lines := ["def f():", "\tpass", "  ", "# note", "def g(): pass"].map String.toList
    0 < lines.length ∧ blockEnd? (.ofTabWidth 4) lines 0 0 = some 3 ∧
      IsBlockEnd (.ofTabWidth 4) lines 0 0 3 ∧
      ∀ other, IsBlockEnd (.ofTabWidth 4) lines 0 0 other → other = 3 := by
  intro lines
  have hstart : 0 < lines.length := by decide
  have hthree : blockEnd? (.ofTabWidth 4) lines 0 0 = some 3 := by decide +kernel
  obtain ⟨last, hlast, -, -, hend⟩ := blockEnd?_isBlockEnd 4 0 lines 0
  obtain rfl : last = 3 := Int.ofNat_inj.1 (Option.some.inj (hlast.symm.trans hthree))
  exact ⟨hstart, hthree, hend hstart⟩

end SourceOutline
