set_option autoImplicit false

/-! # Sorted texts

Texts are sorted by their code points. -/

namespace SourceOutline

/-- Texts in the order of their code points, each once. -/
def sortedDistinct (texts : List String) : List String :=
  texts.eraseDups.mergeSort fun a b => decide (a ≤ b)

theorem mem_sortedDistinct {texts : List String} {text : String} :
    text ∈ sortedDistinct texts ↔ text ∈ texts := by
  simp [sortedDistinct, List.mem_eraseDups]

theorem nodup_eraseDups {α : Type} [BEq α] [LawfulBEq α] :
    ∀ items : List α, items.eraseDups.Nodup
  | [] => List.nodup_nil
  | item :: rest => by
    rw [List.eraseDups_cons, List.nodup_cons]
    refine ⟨?_, nodup_eraseDups _⟩
    intro hitem
    simp [List.mem_eraseDups] at hitem
termination_by items => items.length
decreasing_by exact Nat.lt_succ_of_le (List.length_filter_le _ _)

theorem pairwise_sortedDistinct (texts : List String) :
    (sortedDistinct texts).Pairwise (· < ·) := by
  have hsorted : (sortedDistinct texts).Pairwise fun a b => decide (a ≤ b) = true := by
    refine List.pairwise_mergeSort ?_ ?_ _
    · intro a b c hab hbc
      exact decide_eq_true (String.le_trans (of_decide_eq_true hab) (of_decide_eq_true hbc))
    · intro a b
      simpa using String.le_total a b
  have hdistinct : (sortedDistinct texts).Nodup :=
    (List.mergeSort_perm _ _).nodup_iff.2 (nodup_eraseDups texts)
  refine (hsorted.and hdistinct).imp ?_
  intro a b hab
  refine Decidable.byContradiction fun hlt => hab.2 ?_
  exact String.le_antisymm (of_decide_eq_true hab.1) (String.not_lt.1 hlt)

end SourceOutline
