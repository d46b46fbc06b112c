set_option autoImplicit false

/-! # Filters

A recursion that marks one item after another comes to an end because ever fewer items pass the test
of being unmarked. -/

namespace SourceOutline

/-- Fewer items pass a stricter test that rules out one of them. -/
theorem length_filter_lt {α : Type} {p q : α → Bool} {items : List α} {a : α}
    (hstrict : ∀ x, q x = true → p x = true) (hmem : a ∈ items) (hp : p a = true)
    (hq : q a = false) : (items.filter q).length < (items.filter p).length := by
  have hfilter : items.filter q = (items.filter p).filter q := by
    rw [List.filter_filter]
    refine congrArg (items.filter ·) (funext fun x => ?_)
    cases hx : q x with
    | true => rw [hstrict x hx, Bool.and_self]
    | false => rfl
  rw [hfilter, List.length_filter_lt_length_iff_exists]
  exact ⟨a, List.mem_filter.2 ⟨hmem, hp⟩, Bool.eq_false_iff.1 hq⟩

end SourceOutline
