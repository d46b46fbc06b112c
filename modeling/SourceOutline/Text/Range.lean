set_option autoImplicit false

/-! # Sorted ranges of code points

Character classes are tabulated as sorted, disjoint, inclusive ranges of code points. Look-up stops
at the first range that starts beyond the sought code point, so a table whose ranges are sorted
answers for ASCII after a few comparisons however long it is. -/

namespace SourceOutline

/-- Sorted, disjoint, inclusive ranges of code points. -/
abbrev CodeRanges := List (Nat × Nat)

/-- Whether one of the ranges holds `n`; the ranges have to be sorted. -/
def CodeRanges.has : CodeRanges → Nat → Bool
  | [], _ => false
  | (first, last) :: rest, n => if n < first then false else n ≤ last || has rest n

theorem CodeRanges.exists_of_has {ranges : CodeRanges} {n : Nat} (h : ranges.has n = true) :
    ∃ r ∈ ranges, r.1 ≤ n ∧ n ≤ r.2 := by
  induction ranges with
  | nil => simp [has] at h
  | cons r rest ih =>
    obtain ⟨first, last⟩ := r
    simp only [has] at h
    split at h
    · simp at h
    · rename_i hlow
      rcases Bool.or_eq_true_iff.1 h with hlast | hrest
      · exact ⟨(first, last), List.mem_cons_self, Nat.not_lt.1 hlow, by simpa using hlast⟩
      · obtain ⟨r, hr, hin⟩ := ih hrest
        exact ⟨r, List.mem_cons_of_mem _ hr, hin⟩

end SourceOutline
