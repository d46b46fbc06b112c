import SourceOutline.Proofs.Text.Decimal
import SourceOutline.Repository.Excerpt
import SourceOutline.Text.Split

set_option autoImplicit false

/-! # Numbered lines

The numbers of an excerpt's lines stand in a column that is as wide as the last of them, since no
number before it is longer. So each row is the number, filled up on the left, two spaces and the
line (`Excerpt.exists_isRow`). A row is read without knowing the width: the digits end at the first
space after them, and two spaces later the line starts, whatever it starts with
(`Excerpt.IsRow.readRow?_eq`). Main statement: `numbered_aligned`. -/

namespace SourceOutline

namespace Excerpt

/-! ## Rows -/

/-- A row shows a line with its number: the number on the right of `width` characters, two spaces,
    and the line. -/
def IsRow (width : Nat) (number : Int) (line row : Line) : Prop :=
  ∃ padding, padding + (toString number).length = width ∧
    row = List.replicate padding ' ' ++ (toString number).toList ++ ' ' :: ' ' :: line

/-- The number and the line that a row shows. Its digits end at the first space after them, so the
    width does not have to be known. -/
def readRow? (row : Line) : Option (Int × Line) :=
  let unpadded := row.dropWhile (· == ' ')
  match unpadded.dropWhile Char.isDigit with
  | ' ' :: ' ' :: line =>
    some ((Nat.ofDigitChars 10 (unpadded.takeWhile Char.isDigit) 0 : Nat), line)
  | _ => none

section

variable {width : Nat} {number last : Int} {line row : Line} {lines : List Line}

theorem numberLines_eq_mapIdx (width : Nat) (number : Int) (lines : List Line) :
    numberLines width number lines = lines.mapIdx fun k line =>
      padLeft width (toString (number + k)).toList ++ ' ' :: ' ' :: line := by
  induction lines generalizing number with
  | nil => rfl
  | cons line rest ih =>
    have hnext : ∀ k : Nat, number + 1 + k = number + (k + 1 : Nat) := fun k => by omega
    rw [numberLines, ih, List.mapIdx_cons]
    simp only [hnext, Int.natCast_zero, Int.add_zero]

theorem length_toString_le (hnumber : 0 ≤ number) (h : number ≤ last) :
    (toString number).length ≤ (toString last).length := by
  obtain ⟨m, rfl⟩ := Int.eq_ofNat_of_zero_le hnumber
  obtain ⟨n, rfl⟩ := Int.eq_ofNat_of_zero_le (Int.le_trans hnumber h)
  rw [← String.length_toList, ← String.length_toList, toList_toString_natCast,
    toList_toString_natCast]
  exact length_toDigits_le (Int.ofNat_le.1 h)

theorem isRow_padLeft (h : (toString number).length ≤ width) :
    IsRow width number line
      (padLeft width (toString number).toList ++ ' ' :: ' ' :: line) :=
  ⟨width - (toString number).length, Nat.sub_add_cancel h, by
    rw [padLeft, String.length_toList]⟩

theorem IsRow.feed_notMem (h : IsRow width number line row) (hline : '\n' ∉ line) :
    '\n' ∉ row := by
  obtain ⟨padding, -, rfl⟩ := h
  simp only [List.mem_append, List.mem_cons, List.mem_replicate, not_or]
  refine ⟨⟨fun hpadding => absurd hpadding.2 (by decide), fun hdigit => ?_⟩, by decide, by decide,
    hline⟩
  rcases eq_dash_or_isDigit hdigit with hdash | hdigit
  · exact absurd hdash (by decide)
  · exact absurd hdigit (by decide)

theorem IsRow.readRow?_eq (h : IsRow width number line row) (hnumber : 0 ≤ number) :
    readRow? row = some (number, line) := by
  obtain ⟨padding, -, rfl⟩ := h
  obtain ⟨n, rfl⟩ := Int.eq_ofNat_of_zero_le hnumber
  have hdigits : ∀ c ∈ Nat.toDigits 10 n, c.isDigit = true := fun _ => isDigit_of_mem_toDigits
  have hplain : ∀ c ∈ Nat.toDigits 10 n, (c == ' ') = false := by
    intro c hc
    rw [beq_eq_false_iff_ne]
    rintro rfl
    exact absurd (hdigits _ hc) (by decide)
  have hpadding : ∀ c ∈ List.replicate padding ' ', (c == ' ') = true := fun c hc => by
    rw [List.eq_of_mem_replicate hc, beq_self_eq_true]
  have hspace : ∀ c ∈ (' ' :: ' ' :: line).head?, c.isDigit = false := by
    rintro c ⟨⟩
    rfl
  rw [List.append_assoc, toList_toString_natCast, readRow?,
    dropWhile_append_of_head? hpadding (of_mem_head?_append Nat.toDigits_ne_nil hplain)]
  simp only [takeWhile_append_of_head? hdigits hspace, dropWhile_append_of_head? hdigits hspace,
    Nat.ofDigitChars_ten_toDigits]

end

/-! ## The rows of an excerpt -/

section

variable {excerpt : Excerpt} {line : Line} {k : Nat}

/-- How wide the numbers of an excerpt are: as wide as the last one. -/
def numberWidth (excerpt : Excerpt) : Nat :=
  (toString (excerpt.lastLine + 1)).length

/-- The rows that are written for an excerpt. -/
def rows (excerpt : Excerpt) : List Line :=
  numberLines excerpt.numberWidth (excerpt.firstLine + 1) excerpt.lines

theorem exists_isRow (hfirst : 0 ≤ excerpt.firstLine) (hline : excerpt.lines[k]? = some line) :
    ∃ row, excerpt.rows[k]? = some row ∧
      IsRow excerpt.numberWidth (excerpt.firstLine + k + 1) line row := by
  obtain ⟨hk, -⟩ := List.getElem?_eq_some_iff.1 hline
  have hnumber : excerpt.firstLine + 1 + k = excerpt.firstLine + k + 1 := by omega
  rw [rows, numberLines_eq_mapIdx, List.getElem?_mapIdx, hline, Option.map_some, hnumber]
  refine ⟨_, rfl, isRow_padLeft (length_toString_le (by omega) ?_)⟩
  rw [lastLine]
  omega

theorem length_rows (excerpt : Excerpt) : excerpt.rows.length = excerpt.lines.length := by
  rw [rows, numberLines_eq_mapIdx, List.length_mapIdx]

/-- Cut at its line feeds, the text of an excerpt gives the rows. -/
theorem piecesBetween_numbered (hne : excerpt.lines ≠ []) (hfirst : 0 ≤ excerpt.firstLine)
    (hfree : ∀ line ∈ excerpt.lines, '\n' ∉ line) :
    piecesBetween '\n' excerpt.numbered.toList = excerpt.rows := by
  have hrows : excerpt.rows ≠ [] := by
    rwa [← List.length_pos_iff, length_rows, List.length_pos_iff]
  have hnumbered : excerpt.numbered.toList = ['\n'].intercalate excerpt.rows :=
    String.toList_ofList
  rw [hnumbered]
  refine piecesBetween_intercalate hrows fun row hrow => ?_
  obtain ⟨k, hk⟩ := List.mem_iff_getElem?.1 hrow
  have hlength : k < excerpt.lines.length := by
    rw [← length_rows]
    exact (List.getElem?_eq_some_iff.1 hk).1
  obtain ⟨shown, hshown, hisRow⟩ := exists_isRow hfirst (List.getElem?_eq_getElem hlength)
  obtain rfl := Option.some.inj (hshown.symm.trans hk)
  exact hisRow.feed_notMem (hfree _ (List.getElem_mem hlength))

theorem map_readRow?_rows (hfirst : 0 ≤ excerpt.firstLine) :
    excerpt.rows.map readRow?
      = excerpt.lines.mapIdx fun k line => some (excerpt.firstLine + k + 1, line) := by
  refine List.ext_getElem? fun k => ?_
  rw [List.getElem?_map, List.getElem?_mapIdx]
  cases hline : excerpt.lines[k]? with
  | none =>
    rw [List.getElem?_eq_none_iff, ← length_rows, ← List.getElem?_eq_none_iff] at hline
    rw [hline, Option.map_none, Option.map_none]
  | some line =>
    obtain ⟨row, hrow, hisRow⟩ := exists_isRow hfirst hline
    rw [hrow, Option.map_some, Option.map_some, hisRow.readRow?_eq (by omega)]

end

end Excerpt

/-- **Numbered lines are aligned and can be read back.** Cut at its line feeds, the numbered text of
    an excerpt that has lines, none of which holds a line feed, gives one row for each line. There
    is one width for all rows, in which the number of the line stands on the right; two spaces and
    the line follow. So the numbers and the lines can be read off the rows. -/
theorem numbered_aligned (excerpt : Excerpt) (hne : excerpt.lines ≠ [])
    (hfirst : 0 ≤ excerpt.firstLine) (hfree : ∀ line ∈ excerpt.lines, '\n' ∉ line) :
    let rows := piecesBetween '\n' excerpt.numbered.toList
    rows.length = excerpt.lines.length ∧
    (∃ width, ∀ (k : Nat) line, excerpt.lines[k]? = some line → ∃ row, rows[k]? = some row ∧
      Excerpt.IsRow width (excerpt.firstLine + k + 1) line row) ∧
    rows.map Excerpt.readRow?
      = excerpt.lines.mapIdx fun k line => some (excerpt.firstLine + k + 1, line) := by
  intro rows
  have hrows : rows = excerpt.rows := Excerpt.piecesBetween_numbered hne hfirst hfree
  rw [hrows]
  exact ⟨excerpt.length_rows, ⟨excerpt.numberWidth, fun k line => Excerpt.exists_isRow hfirst⟩,
    Excerpt.map_readRow?_rows hfirst⟩

/-- Lines around the hundredth, of which one is empty and another starts like a row. -/
theorem numbered_aligned_hundredth :
    let excerpt : Excerpt :=
      { sourcePath := "/m.py", firstLine := 98, lines := [[], "  7  x".toList, "\tpass".toList] }
    excerpt.lines ≠ [] ∧ 0 ≤ excerpt.firstLine ∧ (∀ line ∈ excerpt.lines, '\n' ∉ line) ∧
      excerpt.numbered = " 99  \n100    7  x\n101  \tpass" ∧
      (piecesBetween '\n' excerpt.numbered.toList).map Excerpt.readRow?
        = [some (99, []), some (100, "  7  x".toList), some (101, "\tpass".toList)] := by
  intro excerpt
  have hne : excerpt.lines ≠ [] := by decide
  have hfree : ∀ line ∈ excerpt.lines, '\n' ∉ line := by decide
  refine ⟨hne, by decide, hfree, by decide +kernel, ?_⟩
  exact (numbered_aligned excerpt hne (by decide) hfree).2.2

end SourceOutline
