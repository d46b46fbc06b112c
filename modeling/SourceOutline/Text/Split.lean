set_option autoImplicit false

/-! # Parts of texts

A text is a part of another if it stands there without a gap. A text is cut at every occurrence of
one character: there is always one more piece than there are separators, and the pieces may be
empty. The characters of a kind at the start of a text are the part of it that holds no others and
is followed by another one, or by nothing. -/

namespace SourceOutline

/-! ## Parts -/

/-- Whether a text stands somewhere in another without a gap. -/
def isPartOf (part : List Char) : List Char → Bool
  | [] => part.isEmpty
  | c :: rest => part.isPrefixOf (c :: rest) || isPartOf part rest

/-! ## Characters of a kind at the start -/

section

variable {α : Type} {p : α → Bool} {part rest : List α}

theorem of_mem_head?_append {P : α → Prop} (hne : part ≠ []) (hpart : ∀ c ∈ part, P c) :
    ∀ c ∈ (part ++ rest).head?, P c := by
  obtain ⟨first, others, rfl⟩ := List.exists_cons_of_ne_nil hne
  rintro c ⟨⟩
  exact hpart first List.mem_cons_self

theorem takeWhile_append_of_head? (hpart : ∀ c ∈ part, p c = true)
    (hrest : ∀ c ∈ rest.head?, p c = false) : (part ++ rest).takeWhile p = part := by
  rw [List.takeWhile_append_of_pos hpart]
  cases rest with
  | nil => rw [List.takeWhile_nil, List.append_nil]
  | cons c rest =>
    rw [List.takeWhile_cons_of_neg (Bool.eq_false_iff.1 (hrest c rfl)), List.append_nil]

/-- What is left without the characters of a kind at the start is the part from the first other one
    on. -/
theorem dropWhile_append_of_head? (hpart : ∀ c ∈ part, p c = true)
    (hrest : ∀ c ∈ rest.head?, p c = false) : (part ++ rest).dropWhile p = rest := by
  rw [List.dropWhile_append_of_pos hpart]
  cases rest with
  | nil => rfl
  | cons c rest => rw [List.dropWhile_cons_of_neg (Bool.eq_false_iff.1 (hrest c rfl))]

theorem head?_dropWhile_eq_false (p : α → Bool) (text : List α) :
    ∀ c ∈ (text.dropWhile p).head?, p c = false := by
  intro c hc
  have hnot := List.head?_dropWhile_not p text
  rwa [Option.mem_def.1 hc] at hnot

end

/-! ## Pieces between separators -/

/-- Put a character in front of the first piece. -/
def consPiece (c : Char) : List (List Char) → List (List Char)
  | [] => [[c]]
  | piece :: rest => (c :: piece) :: rest

/-- The pieces of a text between the occurrences of `separator`. -/
def piecesBetween (separator : Char) : List Char → List (List Char)
  | [] => [[]]
  | c :: rest =>
    if c = separator then [] :: piecesBetween separator rest
    else consPiece c (piecesBetween separator rest)

theorem piecesBetween_ne_nil (separator : Char) (text : List Char) :
    piecesBetween separator text ≠ [] := by
  cases text with
  | nil => simp [piecesBetween]
  | cons c rest =>
    simp only [piecesBetween]
    split
    · simp
    · cases piecesBetween separator rest <;> simp [consPiece]

theorem intercalate_piecesBetween (separator : Char) (text : List Char) :
    List.intercalate [separator] (piecesBetween separator text) = text := by
  induction text with
  | nil => rfl
  | cons c rest ih =>
    simp only [piecesBetween]
    obtain ⟨piece, pieces, hp⟩ := List.exists_cons_of_ne_nil (piecesBetween_ne_nil separator rest)
    split
    · rename_i hc
      rw [hp] at ih ⊢
      simp only [List.intercalate, List.intersperse, List.flatten] at ih ⊢
      simp [hc, ih]
    · rw [hp] at ih ⊢
      cases pieces with
      | nil => simpa [consPiece, List.intercalate] using ih
      | cons next others => simpa [consPiece, List.intercalate, List.intersperse] using ih

theorem piecesBetween_append_cons {separator : Char} {piece : List Char} (rest : List Char)
    (h : separator ∉ piece) :
    piecesBetween separator (piece ++ separator :: rest)
      = piece :: piecesBetween separator rest := by
  induction piece with
  | nil => simp [piecesBetween]
  | cons c piece ih =>
    simp only [List.mem_cons, not_or] at h
    have hc : ¬ c = separator := fun hc => h.1 hc.symm
    simp only [List.cons_append, piecesBetween, if_neg hc, ih h.2, consPiece]

theorem piecesBetween_of_notMem {separator : Char} {piece : List Char} (h : separator ∉ piece) :
    piecesBetween separator piece = [piece] := by
  induction piece with
  | nil => rfl
  | cons c piece ih =>
    simp only [List.mem_cons, not_or] at h
    have hc : ¬ c = separator := fun hc => h.1 hc.symm
    simp only [piecesBetween, if_neg hc, ih h.2, consPiece]

theorem piecesBetween_intercalate {separator : Char} {pieces : List (List Char)}
    (hne : pieces ≠ []) (h : ∀ piece ∈ pieces, separator ∉ piece) :
    piecesBetween separator ([separator].intercalate pieces) = pieces := by
  induction pieces with
  | nil => exact absurd rfl hne
  | cons piece rest ih =>
    have hpiece := h piece List.mem_cons_self
    cases rest with
    | nil => simpa [List.intercalate] using piecesBetween_of_notMem hpiece
    | cons next others =>
      have hrest := ih (by simp) fun p hp => h p (List.mem_cons_of_mem _ hp)
      rw [List.intercalate_cons_cons, List.append_assoc, List.singleton_append,
        piecesBetween_append_cons _ hpiece, hrest]

theorem mem_of_mem_piecesBetween {separator c : Char} {text piece : List Char}
    (h : piece ∈ piecesBetween separator text) (hc : c ∈ piece) : c ∈ text := by
  induction text generalizing piece with
  | nil =>
    rw [List.mem_singleton.1 h] at hc
    exact absurd hc List.not_mem_nil
  | cons d rest ih =>
    unfold piecesBetween at h
    split at h
    case isTrue =>
      rcases List.mem_cons.1 h with rfl | hrest
      · exact absurd hc List.not_mem_nil
      · exact List.mem_cons_of_mem _ (ih hrest hc)
    case isFalse =>
      obtain ⟨first, others, hpieces⟩ :=
        List.exists_cons_of_ne_nil (piecesBetween_ne_nil separator rest)
      rw [hpieces, consPiece] at h
      rcases List.mem_cons.1 h with rfl | hothers
      · rcases List.mem_cons.1 hc with rfl | hfirst
        · exact List.mem_cons_self
        · exact List.mem_cons_of_mem _ (ih (hpieces ▸ List.mem_cons_self) hfirst)
      · exact List.mem_cons_of_mem _ (ih (hpieces ▸ List.mem_cons_of_mem _ hothers) hc)

end SourceOutline
