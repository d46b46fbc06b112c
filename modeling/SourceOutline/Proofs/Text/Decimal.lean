import SourceOutline.Text.Hex

set_option autoImplicit false

/-! # Numbers as texts

A whole number is written with decimal digits, of which the first is a zero only if the number is
zero; a negative one has a dash in front. With a fixed width, hexadecimal digits are read back to
the number they were made of. -/

namespace SourceOutline

/-! ## Decimal -/

theorem toList_toString_natCast (n : Nat) : (toString (n : Int)).toList = Nat.toDigits 10 n :=
  Nat.toList_repr

theorem toList_toString_negSucc (n : Nat) :
    (toString (Int.negSucc n)).toList = '-' :: Nat.toDigits 10 (n + 1) := by
  have hsign : toString (Int.negSucc n) = "-" ++ Nat.repr (n + 1) := rfl
  rw [hsign, String.toList_append, Nat.toList_repr]
  rfl

theorem isDigit_of_mem_toDigits {n : Nat} {c : Char} (h : c ∈ Nat.toDigits 10 n) :
    c.isDigit = true :=
  Nat.isDigit_of_mem_toDigits (by decide) (by decide) h

theorem eq_dash_or_isDigit {n : Int} {c : Char} (h : c ∈ (toString n).toList) :
    c = '-' ∨ c.isDigit = true := by
  cases n with
  | ofNat m => exact .inr (isDigit_of_mem_toDigits (toList_toString_natCast m ▸ h))
  | negSucc m =>
    rw [toList_toString_negSucc] at h
    exact (List.mem_cons.1 h).imp_right isDigit_of_mem_toDigits

theorem head?_toDigits_ne_zero {n : Nat} (h : n ≠ 0) : (Nat.toDigits 10 n).head? ≠ some '0' := by
  induction n using Nat.strongRecOn with
  | _ n ih =>
    rcases Nat.lt_or_ge n 10 with hlt | hge
    · rw [Nat.toDigits_of_lt_base hlt]
      have hdigit : ∀ n < 10, n ≠ 0 → n.digitChar ≠ '0' := by decide
      exact fun hzero => hdigit n hlt h (Option.some.inj hzero)
    · have hstart := ih (n / 10) (by omega) (by omega)
      obtain ⟨c, rest, hdigits⟩ :=
        List.exists_cons_of_ne_nil (Nat.toDigits_ne_nil : Nat.toDigits 10 (n / 10) ≠ [])
      rw [hdigits] at hstart
      rw [Nat.toDigits_of_base_le (by decide) hge, hdigits]
      exact hstart

/-- The digits of a number are a single zero or do not start with one. -/
theorem toDigits_eq_of_head? {n : Nat} (h : (Nat.toDigits 10 n).head? = some '0') :
    Nat.toDigits 10 n = ['0'] := by
  by_cases hzero : n = 0
  · rw [hzero, Nat.toDigits_zero]
  · exact absurd h (head?_toDigits_ne_zero hzero)

theorem length_toDigits_le {m n : Nat} (h : m ≤ n) :
    (Nat.toDigits 10 m).length ≤ (Nat.toDigits 10 n).length := by
  have hbound := (Nat.length_toDigits_le_iff (by decide) Nat.length_toDigits_pos).1
    (Nat.le_refl (Nat.toDigits 10 n).length)
  exact (Nat.length_toDigits_le_iff (by decide) Nat.length_toDigits_pos).2
    (Nat.lt_of_le_of_lt h hbound)

/-! ## Hexadecimal -/

theorem hexValue?_hexDigit {n : Nat} (h : n < 16) : hexValue? (hexDigit n) = some n := by
  have hall : ∀ n < 16, hexValue? (hexDigit n) = some n := by decide
  exact hall n h

theorem exists_of_mem_hexDigits {width n : Nat} {c : Char} (h : c ∈ hexDigits width n) :
    ∃ m < 16, c = hexDigit m := by
  induction width generalizing n with
  | zero => exact absurd h List.not_mem_nil
  | succ width ih =>
    rw [hexDigits, List.mem_append, List.mem_singleton] at h
    rcases h with hstart | rfl
    · exact ih hstart
    · exact ⟨n % 16, Nat.mod_lt n (by decide), rfl⟩

theorem hexNumber?_hexDigits {width n : Nat} (h : n < Nat.pow 16 width) :
    hexNumber? (hexDigits width n) = some n := by
  induction width generalizing n with
  | zero =>
    obtain rfl : n = 0 := Nat.lt_one_iff.1 h
    rfl
  | succ width ih =>
    have hroom : n < Nat.pow 16 width * 16 := h
    have hstart := ih (n := n / 16) (by omega)
    rw [hexNumber?] at hstart
    rw [hexDigits, hexNumber?, List.foldlM_append, hstart]
    have hlast := hexValue?_hexDigit (Nat.mod_lt n (by decide : 16 > 0))
    simp only [Option.bind_eq_bind, Option.bind_some, List.foldlM_cons, List.foldlM_nil, hlast,
      Option.map_some]
    have hsplit : n / 16 * 16 + n % 16 = n := by omega
    rw [hsplit]
    rfl

end SourceOutline
