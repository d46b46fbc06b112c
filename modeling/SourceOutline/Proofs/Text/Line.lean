import SourceOutline.Text.Line

set_option autoImplicit false

/-! # Lines of texts that are put together

A text that ends in a line break has ended its last line, so what is put after it starts a new one
(`splitLines_append`). Only a line feed after a carriage return would start none, since the two are
one break. Lines that are not empty and hold no break come back as they were once they have been
joined (`splitLines_joinLines`); the lines of a text hold none. Which breaks there are makes no
difference: with a line feed for each of them a text has the same lines (`splitLines_unifyBreaks`).
-/

namespace SourceOutline

/-! ## Cutting one line off -/

theorem splitLines_return {text : List Char} (h : text.head? ≠ some '\n') :
    splitLines ('\r' :: text) = [] :: splitLines text := by
  rw [splitLines.eq_3]
  rintro rest rfl
  exact h rfl

theorem splitLines_cons {c : Char} {text : List Char} (hreturn : c ≠ '\r') (hfeed : c ≠ '\n') :
    splitLines (c :: text) = consLine c (splitLines text) := by
  rw [splitLines.eq_5]
  · rintro _ rfl
    exact absurd rfl hreturn
  · exact hreturn
  · exact hfeed

theorem splitLines_append_of_eq {line : Line} {after : List Char} {lines : List Line}
    (hreturn : '\r' ∉ line) (hfeed : '\n' ∉ line) (hafter : splitLines after = [] :: lines) :
    splitLines (line ++ after) = line :: lines := by
  induction line with
  | nil => exact hafter
  | cons c line ih =>
    simp only [List.mem_cons, not_or] at hreturn hfeed
    rw [List.cons_append, splitLines_cons (Ne.symm hreturn.1) (Ne.symm hfeed.1),
      ih hreturn.2 hfeed.2, consLine]

theorem splitLines_append_feed {line : Line} (rest : List Char) (hreturn : '\r' ∉ line)
    (hfeed : '\n' ∉ line) : splitLines (line ++ '\n' :: rest) = line :: splitLines rest :=
  splitLines_append_of_eq hreturn hfeed rfl

theorem splitLines_of_notMem {line : Line} (hempty : line ≠ []) (hreturn : '\r' ∉ line)
    (hfeed : '\n' ∉ line) : splitLines line = [line] := by
  induction line with
  | nil => exact absurd rfl hempty
  | cons c line ih =>
    simp only [List.mem_cons, not_or] at hreturn hfeed
    rw [splitLines_cons (Ne.symm hreturn.1) (Ne.symm hfeed.1)]
    by_cases hlast : line = []
    · subst hlast
      rfl
    · rw [ih hlast hreturn.2 hfeed.2, consLine]

/-! ## Breaks of one kind -/

/-- The lines of a text stay when every break in it is written as a line feed. -/
theorem splitLines_unifyBreaks (text : List Char) :
    splitLines (unifyBreaks text) = splitLines text := by
  fun_induction splitLines text with
  | case1 => rfl
  | case2 rest ih => rw [unifyBreaks, splitLines, ih]
  | case3 rest hnext ih => rw [unifyBreaks.eq_3 _ hnext, splitLines, ih]
  | case4 rest ih => rw [unifyBreaks.eq_4 _ _ (by simp) (by simp), splitLines, ih]
  | case5 c rest hpair hreturn hfeed ih =>
    rw [unifyBreaks.eq_4 _ _ hpair hreturn, splitLines_cons hreturn hfeed, ih]

/-! ## Lines that are joined -/

theorem break_notMem_of_mem_splitLines {text : List Char} {line : Line}
    (h : line ∈ splitLines text) : '\r' ∉ line ∧ '\n' ∉ line := by
  fun_induction splitLines text generalizing line with
  | case1 => exact absurd h List.not_mem_nil
  | case2 rest ih =>
    rcases List.mem_cons.1 h with rfl | hrest
    · exact ⟨List.not_mem_nil, List.not_mem_nil⟩
    · exact ih hrest
  | case3 rest hnext ih =>
    rcases List.mem_cons.1 h with rfl | hrest
    · exact ⟨List.not_mem_nil, List.not_mem_nil⟩
    · exact ih hrest
  | case4 rest ih =>
    rcases List.mem_cons.1 h with rfl | hrest
    · exact ⟨List.not_mem_nil, List.not_mem_nil⟩
    · exact ih hrest
  | case5 c rest hpair hreturn hfeed ih =>
    -- `c` is put in front of a line that holds no breaks
    have hfront : ∀ other : Line, '\r' ∉ other ∧ '\n' ∉ other →
        '\r' ∉ c :: other ∧ '\n' ∉ c :: other := fun other hother =>
      ⟨List.not_mem_cons_of_ne_of_not_mem (Ne.symm hreturn) hother.1,
        List.not_mem_cons_of_ne_of_not_mem (Ne.symm hfeed) hother.2⟩
    cases hlines : splitLines rest with
    | nil =>
      rw [hlines] at h
      rw [List.mem_singleton.1 h]
      exact hfront [] ⟨List.not_mem_nil, List.not_mem_nil⟩
    | cons first others =>
      rw [hlines] at h ih
      rcases List.mem_cons.1 h with rfl | hother
      · exact hfront first (ih List.mem_cons_self)
      · exact ih (List.mem_cons_of_mem _ hother)

/-- Lines that are not empty and hold no breaks are the lines of the text that they are joined
    to. -/
theorem splitLines_joinLines {lines : List Line}
    (h : ∀ line ∈ lines, line ≠ [] ∧ '\r' ∉ line ∧ '\n' ∉ line) :
    splitLines (joinLines lines) = lines := by
  induction lines with
  | nil => rfl
  | cons line rest ih =>
    obtain ⟨hempty, hreturn, hfeed⟩ := h line List.mem_cons_self
    have hrest := ih fun other hother => h other (List.mem_cons_of_mem _ hother)
    rw [joinLines] at hrest ⊢
    cases rest with
    | nil => rw [List.intercalate_singleton, splitLines_of_notMem hempty hreturn hfeed]
    | cons next others =>
      rw [List.intercalate_cons_cons, List.append_assoc, List.singleton_append,
        splitLines_append_feed _ hreturn hfeed, hrest]

/-! ## How many lines there are -/

theorem length_splitLines_le (text : List Char) : (splitLines text).length ≤ text.length := by
  fun_induction splitLines text with
  | case1 => exact Nat.le_refl 0
  | case2 rest ih => simp only [List.length_cons]; omega
  | case3 rest hnext ih => simp only [List.length_cons]; omega
  | case4 rest ih => simp only [List.length_cons]; omega
  | case5 c rest _ _ _ ih =>
    cases hlines : splitLines rest with
    | nil => simp only [consLine, List.length_cons, List.length_nil]; omega
    | cons line lines =>
      rw [hlines, List.length_cons] at ih
      simp only [consLine, List.length_cons]
      omega

theorem splitLines_ne_nil {text : List Char} (h : text ≠ []) : splitLines text ≠ [] := by
  fun_cases splitLines text with
  | case1 => exact absurd rfl h
  | case2 rest => exact List.cons_ne_nil _ _
  | case3 rest hnext => exact List.cons_ne_nil _ _
  | case4 rest => exact List.cons_ne_nil _ _
  | case5 c rest hpair hreturn hfeed =>
    cases splitLines rest <;> exact List.cons_ne_nil _ _

/-! ## One text after another -/

/-- A text is empty or ends in a line break. -/
def EndsLine (text : List Char) : Prop :=
  ∀ c ∈ text.getLast?, c = '\n' ∨ c = '\r'

theorem EndsLine.of_cons {c : Char} {rest : List Char} (h : EndsLine (c :: rest)) :
    EndsLine rest := by
  intro last hlast
  refine h last ?_
  rw [List.getLast?_cons, Option.mem_def.1 hlast]
  rfl

/-- The lines of a text that is put after one that ends in a line break follow the lines of the
    latter, unless the break goes on. -/
theorem splitLines_append {first second : List Char} (h : EndsLine first)
    (hsecond : second.head? ≠ some '\n') :
    splitLines (first ++ second) = splitLines first ++ splitLines second := by
  fun_induction splitLines first with
  | case1 => rfl
  | case2 rest ih =>
    rw [List.cons_append, List.cons_append, splitLines, ih h.of_cons.of_cons, List.cons_append]
  | case3 rest hnext ih =>
    have hhead : (rest ++ second).head? ≠ some '\n' := by
      cases rest with
      | nil => exact hsecond
      | cons c rest =>
        intro hfeed
        exact hnext rest (by rw [Option.some.inj hfeed])
    rw [List.cons_append, splitLines_return hhead, ih h.of_cons, List.cons_append]
  | case4 rest ih => rw [List.cons_append, splitLines, ih h.of_cons, List.cons_append]
  | case5 c rest hpair hreturn hfeed ih =>
    -- the break at the end is still to come
    have hrest : rest ≠ [] := by
      rintro rfl
      rcases h c rfl with rfl | rfl
      · exact hfeed rfl
      · exact hreturn rfl
    rw [List.cons_append, splitLines_cons hreturn hfeed, ih h.of_cons]
    obtain ⟨line, lines, hlines⟩ := List.exists_cons_of_ne_nil (splitLines_ne_nil hrest)
    rw [hlines, List.cons_append, consLine, consLine, List.cons_append]

end SourceOutline
