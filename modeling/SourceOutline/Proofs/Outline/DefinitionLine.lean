import SourceOutline.Outline.Definition
import SourceOutline.Text.Split

set_option autoImplicit false

/-! # The grammar of definition lines

A line is read from left to right, and each part of it is taken as long as it goes. That is one way
to take it apart, and there is no other: neither keyword starts the other, a blank is no word
character, and what follows the name does not go on with it (`Definition.IsOpenedBy.unique`). So a
line opens a definition exactly if it can be taken apart at all (`Definition.ofLine?_eq_some_iff`),
and the name is as long as it can be. Main statement: `ofLine?_grammar`. -/

namespace SourceOutline

/-! ## Characters of names -/

theorem isWord_eq_false_of_isBlank {c : Char} (h : isBlank c = true) : isWord c = false := by
  have hranges : ∀ range ∈ blankRanges, ∀ offset < range.2 + 1 - range.1,
      wordRanges.has (range.1 + offset) = false := by decide +kernel
  obtain ⟨range, hrange, hfirst, hlast⟩ := CodeRanges.exists_of_has h
  have hword := hranges range hrange (c.toNat - range.1) (by omega)
  rwa [Nat.add_sub_cancel' hfirst] at hword

theorem not_separator_of_isWord {c : Char} (h : isWord c = true) :
    isBlank c = false ∧ c ≠ ':' ∧ c ≠ '/' := by
  refine ⟨Bool.eq_false_iff.2 fun hblank => ?_, ?_, ?_⟩
  · exact absurd h (Bool.eq_false_iff.1 (isWord_eq_false_of_isBlank hblank))
  · rintro rfl
    exact absurd h (by decide)
  · rintro rfl
    exact absurd h (by decide)

/-! ## The three parts that are read -/

/-- The word that starts the line of a definition. -/
def DefinitionKind.keyword : DefinitionKind → List Char
  | ofClass => ['c', 'l', 'a', 's', 's']
  | ofFunction => ['d', 'e', 'f']

theorem DefinitionKind.ofKeyword?_eq_some_iff {text after : List Char} {kind : DefinitionKind} :
    ofKeyword? text = some (kind, after) ↔ text = kind.keyword ++ after := by
  constructor
  · intro h
    unfold ofKeyword? at h
    split at h
    case h_1 => cases h; rfl
    case h_2 => cases h; rfl
    case h_3 => cases h
  · rintro rfl
    cases kind <;> rfl

theorem afterBlanks?_eq_some_iff {text after : List Char} :
    afterBlanks? text = some after ↔
      text.takeWhile isBlank ≠ [] ∧ text.dropWhile isBlank = after := by
  cases text with
  | nil => simp [afterBlanks?]
  | cons c text => cases hc : isBlank c <;> simp [afterBlanks?, trimLeft, hc]

/-- The name is all of the word characters at the start of a text, if there are any and the first
    of them is no digit. -/
theorem leadingName?_eq_some_iff {text name : List Char} :
    leadingName? text = some name ↔
      text.takeWhile isWord = name ∧ name ≠ [] ∧ ∀ c ∈ name.head?, isDecimal c = false := by
  cases text with
  | nil =>
    refine iff_of_false nofun ?_
    rintro ⟨hname, hne, -⟩
    exact hne hname.symm
  | cons c text =>
    by_cases hstarts : (isWord c && !isDecimal c) = true
    · obtain ⟨hword, hdecimal⟩ := Bool.and_eq_true_iff.1 hstarts
      simp only [leadingName?, if_pos hstarts, List.takeWhile_cons_of_pos hword,
        Option.some.injEq]
      constructor
      · rintro rfl
        exact ⟨rfl, List.cons_ne_nil _ _, by simpa using hdecimal⟩
      · exact And.left
    · refine iff_of_false (by simp [leadingName?, hstarts]) ?_
      rintro ⟨rfl, hne, hdecimal⟩
      have hword : isWord c = true := Bool.of_not_eq_false fun hother =>
        hne (List.takeWhile_cons_of_neg (by simp [hother]))
      rw [List.takeWhile_cons_of_pos hword] at hdecimal
      exact hstarts (by rw [hword, hdecimal c rfl]; rfl)

/-! ## The grammar -/

/-- A text opens a definition: it is a keyword, at least one blank, a name, and a rest that does
    not go on with the name. -/
structure Definition.IsOpenedBy (definition : Definition) (blanks rest text : List Char) :
    Prop where
  text_eq : text = definition.kind.keyword ++ (blanks ++ (definition.name.toList ++ rest))
  blanks_ne_nil : blanks ≠ []
  blank : ∀ c ∈ blanks, isBlank c = true
  name_ne_nil : definition.name.toList ≠ []
  word : ∀ c ∈ definition.name.toList, isWord c = true
  not_decimal : ∀ c ∈ definition.name.toList.head?, isDecimal c = false
  boundary : ∀ c ∈ rest.head?, isWord c = false

namespace Definition.IsOpenedBy

variable {definition other : Definition} {blanks rest otherBlanks otherRest text : List Char}

theorem not_blank (h : definition.IsOpenedBy blanks rest text) :
    ∀ c ∈ (definition.name.toList ++ rest).head?, isBlank c = false :=
  of_mem_head?_append h.name_ne_nil fun c hc => (not_separator_of_isWord (h.word c hc)).1

theorem takeWhile_isBlank (h : definition.IsOpenedBy blanks rest text) :
    (blanks ++ (definition.name.toList ++ rest)).takeWhile isBlank = blanks :=
  takeWhile_append_of_head? h.blank h.not_blank

theorem dropWhile_isBlank (h : definition.IsOpenedBy blanks rest text) :
    (blanks ++ (definition.name.toList ++ rest)).dropWhile isBlank
      = definition.name.toList ++ rest :=
  dropWhile_append_of_head? h.blank h.not_blank

theorem takeWhile_isWord (h : definition.IsOpenedBy blanks rest text) :
    (definition.name.toList ++ rest).takeWhile isWord = definition.name.toList :=
  takeWhile_append_of_head? h.word h.boundary

theorem prefix_name (h : definition.IsOpenedBy blanks rest text) {word : List Char}
    (hstart : word <+: definition.name.toList ++ rest) (hword : ∀ c ∈ word, isWord c = true) :
    word <+: definition.name.toList := by
  obtain ⟨tail, htail⟩ := hstart
  rw [← h.takeWhile_isWord, ← htail, List.takeWhile_append_of_pos hword]
  exact List.prefix_append _ _

/-- A text opens at most one definition, and can be taken apart in one way. -/
theorem unique (h : definition.IsOpenedBy blanks rest text)
    (hother : other.IsOpenedBy otherBlanks otherRest text) :
    other = definition ∧ otherBlanks = blanks ∧ otherRest = rest := by
  have hkeyword := DefinitionKind.ofKeyword?_eq_some_iff.2 h.text_eq
  rw [DefinitionKind.ofKeyword?_eq_some_iff.2 hother.text_eq] at hkeyword
  obtain ⟨hkind, hafter⟩ := Prod.mk.inj (Option.some.inj hkeyword)
  have hblanks : otherBlanks = blanks := by
    rw [← hother.takeWhile_isBlank, hafter, h.takeWhile_isBlank]
  have htail : other.name.toList ++ otherRest = definition.name.toList ++ rest := by
    rw [← hother.dropWhile_isBlank, hafter, h.dropWhile_isBlank]
  have hname : other.name.toList = definition.name.toList := by
    rw [← hother.takeWhile_isWord, htail, h.takeWhile_isWord]
  rw [hname] at htail
  refine ⟨?_, hblanks, List.append_cancel_left htail⟩
  cases definition
  cases other
  rw [Definition.mk.injEq]
  exact ⟨hkind, String.toList_inj.1 hname⟩

end Definition.IsOpenedBy

/-- The definition that is found on a line is the one that the trimmed line opens. -/
theorem Definition.ofLine?_eq_some_iff {line : Line} {definition : Definition} :
    ofLine? line = some definition ↔
      ∃ blanks rest, definition.IsOpenedBy blanks rest (trim line) := by
  simp only [ofLine?, bind, Option.bind_eq_some_iff, pure, Option.some.injEq]
  constructor
  · rintro ⟨⟨kind, afterKeyword⟩, hkeyword, afterSpace, hspace, name, hname, rfl⟩
    obtain ⟨hblanks, rfl⟩ := afterBlanks?_eq_some_iff.1 hspace
    obtain ⟨htaken, hne, hfirst⟩ := leadingName?_eq_some_iff.1 hname
    -- each part is the longest stretch of its characters, so what follows it starts with another
    refine ⟨afterKeyword.takeWhile isBlank, (afterKeyword.dropWhile isBlank).dropWhile isWord, ?_⟩
    have hword : ∀ c ∈ name, isWord c = true := by
      rw [← htaken]
      exact List.all_eq_true.1 List.all_takeWhile
    exact
      { text_eq := by
          rw [DefinitionKind.ofKeyword?_eq_some_iff.1 hkeyword, String.toList_ofList, ← htaken,
            List.takeWhile_append_dropWhile, List.takeWhile_append_dropWhile]
        blanks_ne_nil := hblanks
        blank := List.all_eq_true.1 List.all_takeWhile
        name_ne_nil := by rwa [String.toList_ofList]
        word := by rwa [String.toList_ofList]
        not_decimal := by rwa [String.toList_ofList]
        boundary := head?_dropWhile_eq_false isWord _ }
  · rintro ⟨blanks, rest, h⟩
    refine ⟨_, DefinitionKind.ofKeyword?_eq_some_iff.2 h.text_eq, _,
      afterBlanks?_eq_some_iff.2 ⟨?_, h.dropWhile_isBlank⟩, _,
      leadingName?_eq_some_iff.2 ⟨h.takeWhile_isWord, h.name_ne_nil, h.not_decimal⟩, ?_⟩
    · rw [h.takeWhile_isBlank]
      exact h.blanks_ne_nil
    · rw [String.ofList_toList]

/-- **A line is matched exactly by its grammar.** A line opens a definition if, without the blanks
    around it, it is the keyword, at least one blank, a name of word characters that does not start
    with a decimal digit, and a rest that does not go on with the name. Nothing else about the line
    can be taken for these parts. The name is all of the word characters in its place, and holds
    neither blanks nor colons nor slashes. -/
theorem ofLine?_grammar (line : Line) :
    (∀ definition : Definition, Definition.ofLine? line = some definition ↔
      ∃ blanks rest, definition.IsOpenedBy blanks rest (trim line)) ∧
    ∀ (definition : Definition) blanks rest, definition.IsOpenedBy blanks rest (trim line) →
      (∀ (other : Definition) otherBlanks otherRest,
        other.IsOpenedBy otherBlanks otherRest (trim line) →
          other = definition ∧ otherBlanks = blanks ∧ otherRest = rest) ∧
      (∀ word, word <+: definition.name.toList ++ rest → (∀ c ∈ word, isWord c = true) →
        word <+: definition.name.toList) ∧
      ∀ c ∈ definition.name.toList, isBlank c = false ∧ c ≠ ':' ∧ c ≠ '/' := by
  refine ⟨fun definition => Definition.ofLine?_eq_some_iff, fun definition blanks rest h => ?_⟩
  refine ⟨fun other otherBlanks otherRest hother => h.unique hother, ?_, ?_⟩
  · exact fun word hstart hword => h.prefix_name hstart hword
  · exact fun c hc => not_separator_of_isWord (h.word c hc)

/-- Wide blanks around and inside the line, and a name that is not ASCII and goes on with digits of
    another script, up to a slash. -/
theorem ofLine?_grammar_wideBlanks :
    let line := "\t\u3000def\u00A0 né٣_2/x: \u2028".toList
    let definition : Definition := { kind := .ofFunction, name := "né٣_2" }
    definition.IsOpenedBy ['\u00A0', ' '] ['/', 'x', ':'] (trim line) ∧
      Definition.ofLine? line = some definition ∧
      (∀ (other : Definition) blanks rest, other.IsOpenedBy blanks rest (trim line) →
        other = definition ∧ blanks = ['\u00A0', ' '] ∧ rest = ['/', 'x', ':']) ∧
      ['n', 'é', '٣'] <+: definition.name.toList ∧
      ∀ c ∈ definition.name.toList, isBlank c = false ∧ c ≠ ':' ∧ c ≠ '/' := by
  intro line definition
  have hopened : definition.IsOpenedBy ['\u00A0', ' '] ['/', 'x', ':'] (trim line) :=
    { text_eq := by decide +kernel
      blanks_ne_nil := by decide
      blank := List.all_eq_true.1 (by decide)
      name_ne_nil := by decide
      word := List.all_eq_true.1 (by decide +kernel)
      not_decimal := by
        have hfirst : definition.name.toList.head? = some 'n' := by decide
        rw [hfirst]
        rintro c ⟨⟩
        decide +kernel
      boundary := by
        rintro c ⟨⟩
        decide +kernel }
  obtain ⟨hmatches, hparts⟩ := ofLine?_grammar line
  obtain ⟨hunique, hlongest, hplain⟩ := hparts definition _ _ hopened
  have hstart : ['n', 'é', '٣'] <+: definition.name.toList ++ ['/', 'x', ':'] := by decide
  have hword : ∀ c ∈ ['n', 'é', '٣'], isWord c = true := List.all_eq_true.1 (by decide +kernel)
  exact ⟨hopened, (hmatches definition).2 ⟨_, _, hopened⟩, hunique, hlongest _ hstart hword, hplain⟩

end SourceOutline
