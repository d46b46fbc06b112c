set_option autoImplicit false

/-! # Slices

A slice of a list is given by two integer bounds, the first included and the second not. A negative
bound counts from the end of the list, and a bound beyond an end stands for that end. -/

namespace SourceOutline

/-- The position in a list of length `n` that a bound stands for. -/
def slicePosition (n : Nat) (bound : Int) : Nat :=
  if bound < 0 then (n + bound).toNat else min bound.toNat n

/-- The items from `start` up to but not including `stop`. -/
def slice {α : Type} (items : List α) (start stop : Int) : List α :=
  (items.take (slicePosition items.length stop)).drop (slicePosition items.length start)

theorem slice_ofNat {α : Type} (items : List α) {start stop : Nat} (hstart : start ≤ items.length)
    (hstop : stop ≤ items.length) :
    slice items start stop = (items.take stop).drop start := by
  have hposition : ∀ k : Nat, k ≤ items.length → slicePosition items.length (k : Int) = k := by
    intro k hk
    have : ¬ ((k : Int) < 0) := by omega
    simp [slicePosition, this, hk]
  simp [slice, hposition start hstart, hposition stop hstop]

theorem slice_append_left {α : Type} (items more : List α) {start stop : Nat}
    (hstart : start ≤ items.length) (hstop : stop ≤ items.length) :
    slice (items ++ more) start stop = slice items start stop := by
  rw [slice_ofNat _ (by rw [List.length_append]; omega) (by rw [List.length_append]; omega),
    slice_ofNat _ hstart hstop, List.take_append_of_le_length hstop]

theorem slice_append_right {α : Type} (items more : List α) {start stop : Nat}
    (hstart : start ≤ more.length) (hstop : stop ≤ more.length) :
    slice (items ++ more) ((items.length + start : Nat) : Int) ((items.length + stop : Nat) : Int)
      = slice more start stop := by
  rw [slice_ofNat _ (by rw [List.length_append]; omega) (by rw [List.length_append]; omega),
    slice_ofNat _ hstart hstop, List.take_length_add_append, List.drop_length_add_append]

end SourceOutline
