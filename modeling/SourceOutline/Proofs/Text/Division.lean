import SourceOutline.Proofs.Text.Line

set_option autoImplicit false

/-! # Lines and the breaks between them

A text is its lines with a break after each, of which only the last may be missing. Told so, it
could be divided in more than one way: a carriage return before a line feed might be a break of its
own, and a line that is missing its break might be empty. Without these two there is one division
into lines (`IsDivision`), and it is what cutting the text gives (`isDivision_iff`). Main statement:
`splitLines_exact`. -/

namespace SourceOutline

/-- What ends a line. -/
inductive LineBreak where
  | returnFeed
  | carriageReturn
  | lineFeed
deriving Repr, DecidableEq

/-- The characters of a break. -/
def LineBreak.text : LineBreak → List Char
  | returnFeed => ['\r', '\n']
  | carriageReturn => ['\r']
  | lineFeed => ['\n']

/-- A line that holds no break. -/
structure IsBreakFree (line : Line) : Prop where
  noReturn : '\r' ∉ line
  noFeed : '\n' ∉ line

instance (line : Line) : Decidable (IsBreakFree line) :=
  decidable_of_iff ('\r' ∉ line ∧ '\n' ∉ line) ⟨fun h => ⟨h.1, h.2⟩, fun h => ⟨h.1, h.2⟩⟩

/-- A text is divided into lines: it is empty, or one line that is not and has no break, or a line
    with its break and a text that is divided. A carriage return is no break before a line feed. -/
inductive IsDivision : List Char → List Line → Prop
  | empty : IsDivision [] []
  | unended {line : Line} (hfree : IsBreakFree line) (hne : line ≠ []) : IsDivision line [line]
  | ended {line : Line} {rest : List Char} {lines : List Line} (lineBreak : LineBreak)
      (hfree : IsBreakFree line)
      (hreturn : lineBreak = .carriageReturn → rest.head? ≠ some '\n')
      (hrest : IsDivision rest lines) : IsDivision (line ++ lineBreak.text ++ rest) (line :: lines)

section

variable {text : List Char} {lines : List Line}

/-! ## Cutting finds the division -/

theorem splitLines_lineBreak {lineBreak : LineBreak}
    (h : lineBreak = .carriageReturn → text.head? ≠ some '\n') :
    splitLines (lineBreak.text ++ text) = [] :: splitLines text := by
  cases lineBreak with
  | returnFeed => rfl
  | carriageReturn => exact splitLines_return (h rfl)
  | lineFeed => rfl

/-- The lines that a text is divided into are those that it is cut into. -/
theorem IsDivision.eq_splitLines (h : IsDivision text lines) : lines = splitLines text := by
  induction h with
  | empty => rfl
  | unended hfree hne => exact (splitLines_of_notMem hne hfree.noReturn hfree.noFeed).symm
  | ended lineBreak hfree hreturn hrest ih =>
    rw [ih, List.append_assoc,
      splitLines_append_of_eq hfree.noReturn hfree.noFeed (splitLines_lineBreak hreturn)]

/-! ## There is a division -/

theorem IsDivision.lineBreak (lineBreak : LineBreak)
    (hreturn : lineBreak = .carriageReturn → text.head? ≠ some '\n') (h : IsDivision text lines) :
    IsDivision (lineBreak.text ++ text) ([] :: lines) :=
  ended lineBreak ⟨List.not_mem_nil, List.not_mem_nil⟩ hreturn h

theorem IsBreakFree.cons {line : Line} {c : Char} (h : IsBreakFree line) (hreturn : c ≠ '\r')
    (hfeed : c ≠ '\n') : IsBreakFree (c :: line) where
  noReturn := List.not_mem_cons_of_ne_of_not_mem (Ne.symm hreturn) h.noReturn
  noFeed := List.not_mem_cons_of_ne_of_not_mem (Ne.symm hfeed) h.noFeed

theorem IsDivision.consLine {c : Char} (h : IsDivision text lines) (hreturn : c ≠ '\r')
    (hfeed : c ≠ '\n') : IsDivision (c :: text) (SourceOutline.consLine c lines) := by
  cases h with
  | empty =>
    exact unended (IsBreakFree.cons ⟨List.not_mem_nil, List.not_mem_nil⟩ hreturn hfeed)
      (List.cons_ne_nil _ _)
  | unended hfree hne => exact unended (hfree.cons hreturn hfeed) (List.cons_ne_nil _ _)
  | ended lineBreak hfree hnext hrest =>
    exact ended lineBreak (hfree.cons hreturn hfeed) hnext hrest

theorem isDivision_splitLines (text : List Char) : IsDivision text (splitLines text) := by
  fun_induction splitLines text with
  | case1 => exact .empty
  | case2 rest ih => exact ih.lineBreak .returnFeed fun h => absurd h (by decide)
  | case3 rest hnext ih =>
    refine ih.lineBreak .carriageReturn fun _ hfeed => ?_
    obtain ⟨tail, rfl⟩ := List.head?_eq_some_iff.1 hfeed
    exact hnext tail rfl
  | case4 rest ih => exact ih.lineBreak .lineFeed fun h => absurd h (by decide)
  | case5 c rest hpair hreturn hfeed ih => exact ih.consLine hreturn hfeed

/-- A text is divided into the lines that it is cut into, and no others. -/
theorem isDivision_iff : IsDivision text lines ↔ lines = splitLines text := by
  constructor
  · exact IsDivision.eq_splitLines
  · rintro rfl
    exact isDivision_splitLines text

/-! ## Lines that are joined -/

/-- Lines without breaks, joined by line feeds and with one at the end, are the division of that
    text. -/
theorem isDivision_joinLines (hne : lines ≠ []) (h : ∀ line ∈ lines, IsBreakFree line) :
    IsDivision (joinLines lines ++ ['\n']) lines := by
  induction lines with
  | nil => exact absurd rfl hne
  | cons line rest ih =>
    have hline := h line List.mem_cons_self
    have hfeed : LineBreak.lineFeed ≠ .carriageReturn := by decide
    cases rest with
    | nil =>
      have hdivision := IsDivision.ended .lineFeed hline (fun h => absurd h hfeed) .empty
      rw [List.append_nil] at hdivision
      rwa [joinLines, List.intercalate_singleton]
    | cons next others =>
      have hrest := ih (List.cons_ne_nil _ _) fun other hother =>
        h other (List.mem_cons_of_mem _ hother)
      rw [joinLines, List.intercalate_cons_cons, List.append_assoc _ _ ['\n']]
      exact IsDivision.ended .lineFeed hline (fun h => absurd h hfeed) hrest

end

/-- **Cutting into lines is exact.** A text is divided into the lines that it is cut into and no
    others. So the lines stay when every break is written as a line feed, and lines without breaks
    are got back from the text in which a line feed follows each of them. -/
theorem splitLines_exact (text : List Char) :
    (∀ lines, IsDivision text lines ↔ lines = splitLines text) ∧
      splitLines (unifyBreaks text) = splitLines text ∧
      ∀ lines : List Line, lines ≠ [] → (∀ line ∈ lines, IsBreakFree line) →
        splitLines (joinLines lines ++ ['\n']) = lines := by
  refine ⟨fun lines => isDivision_iff, splitLines_unifyBreaks text, fun lines hne hfree => ?_⟩
  exact (isDivision_joinLines hne hfree).eq_splitLines.symm

/-- Breaks of all kinds in a row, and a last line without one; lines of which the first and the last
    are empty. -/
theorem splitLines_exact_emptyLines :
    let text := "x\r\r\n\n\rb".toList
    let lines : List Line := [[], ['a'], []]
    IsDivision text [['x'], [], [], [], ['b']] ∧ lines ≠ [] ∧ (∀ line ∈ lines, IsBreakFree line) ∧
      splitLines (joinLines lines ++ ['\n']) = lines := by
  intro text lines
  have hne : lines ≠ [] := by decide
  have hfree : ∀ line ∈ lines, IsBreakFree line := by decide
  obtain ⟨hdivision, -, hjoined⟩ := splitLines_exact text
  exact ⟨(hdivision _).2 (by decide), hne, hfree, hjoined lines hne hfree⟩

end SourceOutline
