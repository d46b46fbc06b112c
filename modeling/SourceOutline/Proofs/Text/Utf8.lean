import SourceOutline.Text.Utf8

set_option autoImplicit false

/-! # Encoded texts are decoded

The bytes of a character begin as many bytes as there are, each of the others lies in the range that
the first one leaves, and together they hold the bits of the code point. So a text is decoded from
the bytes that it is encoded with (`decodeUtf8_encodeUtf8`). -/

namespace SourceOutline

theorem toNat_byte {n : Nat} (h : n < 0x100) : (UInt8.ofNat n).toNat = n := by
  rw [UInt8.toNat_ofNat']
  exact Nat.mod_eq_of_lt h

theorem toNat_continuationByte (n : Nat) : (continuationByte n).toNat = 0x80 + n % 0x40 :=
  toNat_byte (by omega)

/-- A continuation byte adds six bits to a character that has begun, if it lies in the range. -/
theorem decodeUtf8From_continuation {pending : Utf8Pending} {n : Nat}
    (hlow : pending.low ≤ 0x80 + n % 0x40) (hhigh : 0x80 + n % 0x40 ≤ pending.high)
    (position : Nat) (rest : List UInt8) :
    decodeUtf8From position (some pending) (continuationByte n :: rest)
      = match pending.owed with
        | 0 => (decodeUtf8From (position + 1) none rest).map
            (Char.ofNat (pending.bits * 0x40 + n % 0x40) :: ·)
        | owed + 1 => decodeUtf8From (position + 1) (some
            { position := pending.position, byte := pending.byte,
              bits := pending.bits * 0x40 + n % 0x40, owed }) rest := by
  have hbits : (0x80 + n % 0x40) % 0x40 = n % 0x40 := by omega
  rw [decodeUtf8From, toNat_continuationByte, hbits]
  exact if_pos (by simp [hlow, hhigh])

/-- A first byte of several begins a character. -/
theorem decodeUtf8From_first {n : Nat} {pending : Utf8Pending} (hbyte : n < 0x100)
    (hseveral : 0x80 ≤ n) {position : Nat}
    (h : Utf8Pending.ofByte? position (UInt8.ofNat n) = some pending) (rest : List UInt8) :
    decodeUtf8From position none (UInt8.ofNat n :: rest)
      = decodeUtf8From (position + 1) (some pending) rest := by
  rw [decodeUtf8From, toNat_byte hbyte, if_neg (by omega), h]

/-- A character of three bytes begins with its first one, which leaves room for the second: the
    range of that leaves out shorter forms and surrogates. -/
theorem exists_ofByte?_three {n : Nat} (hlow : 0x800 ≤ n) (hhigh : n < 0x10000)
    (hvalid : n < 0xD800 ∨ 0xE000 ≤ n) (position : Nat) :
    ∃ pending, Utf8Pending.ofByte? position (UInt8.ofNat (0xE0 + n / 0x1000)) = some pending ∧
      pending.bits = n / 0x1000 ∧ pending.owed = 1 ∧
      pending.low ≤ 0x80 + n / 0x40 % 0x40 ∧ 0x80 + n / 0x40 % 0x40 ≤ pending.high := by
  have hbyte := toNat_byte (n := 0xE0 + n / 0x1000) (by omega)
  simp only [Utf8Pending.ofByte?, hbyte]
  rw [if_neg (by omega), if_neg (by omega)]
  split
  case isTrue => refine ⟨_, rfl, ?_, rfl, ?_, ?_⟩ <;> (simp only; omega)
  case isFalse =>
  split
  case isTrue => refine ⟨_, rfl, ?_, rfl, ?_, ?_⟩ <;> (simp only; omega)
  case isFalse =>
    rw [if_pos (by omega)]
    refine ⟨_, rfl, ?_, rfl, ?_, ?_⟩ <;> (simp only; omega)

/-- A character of four bytes begins with its first one, which leaves room for the second: the
    range of that leaves out shorter forms and what is past the last code point. -/
theorem exists_ofByte?_four {n : Nat} (hlow : 0x10000 ≤ n) (hhigh : n < 0x110000)
    (position : Nat) :
    ∃ pending, Utf8Pending.ofByte? position (UInt8.ofNat (0xF0 + n / 0x40000)) = some pending ∧
      pending.bits = n / 0x40000 ∧ pending.owed = 2 ∧
      pending.low ≤ 0x80 + n / 0x1000 % 0x40 ∧ 0x80 + n / 0x1000 % 0x40 ≤ pending.high := by
  have hbyte := toNat_byte (n := 0xF0 + n / 0x40000) (by omega)
  simp only [Utf8Pending.ofByte?, hbyte]
  rw [if_neg (by omega), if_neg (by omega), if_neg (by omega), if_neg (by omega),
    if_neg (by omega)]
  split
  case isTrue => refine ⟨_, rfl, ?_, rfl, ?_, ?_⟩ <;> (simp only; omega)
  case isFalse =>
  split
  case isTrue => refine ⟨_, rfl, ?_, rfl, ?_, ?_⟩ <;> (simp only; omega)
  case isFalse =>
    rw [if_pos (by omega)]
    refine ⟨_, rfl, ?_, rfl, ?_, ?_⟩ <;> (simp only; omega)

theorem decodeUtf8From_bytesOf (c : Char) {text : List Char} {rest : List UInt8}
    (hrest : ∀ position, decodeUtf8From position none rest = .ok text) (position : Nat) :
    decodeUtf8From position none (utf8BytesOf c.toNat ++ rest) = .ok (c :: text) := by
  have hvalid : c.toNat < 0xD800 ∨ 0xE000 ≤ c.toNat ∧ c.toNat < 0x110000 := by
    rcases c.valid with hlow | ⟨hhigh, hlast⟩
    · exact .inl hlow
    · exact .inr ⟨hhigh, hlast⟩
  have hchar : Char.ofNat c.toNat = c := Char.ofNat_toNat c
  generalize c.toNat = n at hvalid hchar ⊢
  -- it is enough that the bits are put together to the code point
  have hdone : ∀ {m : Nat} (position : Nat), m = n →
      (decodeUtf8From position none rest).map (Char.ofNat m :: ·) = .ok (c :: text) := by
    rintro m position rfl
    rw [hrest, hchar]
    rfl
  unfold utf8BytesOf
  split
  case isTrue hone =>
    rw [List.singleton_append, decodeUtf8From, toNat_byte (by omega), if_pos hone]
    exact hdone _ rfl
  case isFalse hone =>
  split
  case isTrue htwo =>
    have hfirst : Utf8Pending.ofByte? position (UInt8.ofNat (0xC0 + n / 0x40)) = some
        { position, byte := UInt8.ofNat (0xC0 + n / 0x40), bits := n / 0x40, owed := 0 } := by
      have hbyte := toNat_byte (n := 0xC0 + n / 0x40) (by omega)
      simp only [Utf8Pending.ofByte?, hbyte]
      rw [if_neg (by omega), if_pos (by omega), Nat.add_sub_cancel_left]
    simp only [List.cons_append, List.nil_append]
    rw [decodeUtf8From_first (by omega) (by omega) hfirst,
      decodeUtf8From_continuation (by simp) (by simp only; omega)]
    exact hdone _ (by simp only; omega)
  case isFalse htwo =>
  split
  case isTrue hthree =>
    obtain ⟨pending, hfirst, hbits, howed, hlow, hhigh⟩ :=
      exists_ofByte?_three (n := n) (by omega) hthree (by omega) position
    simp only [List.cons_append, List.nil_append]
    rw [decodeUtf8From_first (by omega) (by omega) hfirst,
      decodeUtf8From_continuation hlow hhigh, howed]
    simp only
    rw [decodeUtf8From_continuation (by simp) (by simp only; omega)]
    exact hdone _ (by simp only; omega)
  case isFalse hthree =>
    obtain ⟨pending, hfirst, hbits, howed, hlow, hhigh⟩ :=
      exists_ofByte?_four (n := n) (by omega) (by omega) position
    simp only [List.cons_append, List.nil_append]
    rw [decodeUtf8From_first (by omega) (by omega) hfirst,
      decodeUtf8From_continuation hlow hhigh, howed]
    simp only
    rw [decodeUtf8From_continuation (by simp) (by simp only; omega)]
    simp only
    rw [decodeUtf8From_continuation (by simp) (by simp only; omega)]
    exact hdone _ (by simp only; omega)

/-- A text is decoded from its bytes. -/
theorem decodeUtf8_encodeUtf8 (text : List Char) : decodeUtf8 (encodeUtf8 text) = .ok text := by
  have hall : ∀ position, decodeUtf8From position none (encodeUtf8 text) = .ok text := by
    induction text with
    | nil => exact fun _ => rfl
    | cons c rest ih =>
      rw [encodeUtf8, List.flatMap_cons]
      exact decodeUtf8From_bytesOf c ih
  exact hall 0

end SourceOutline
