import Mathlib.Data.Bool.AllAny
import Mathlib.Data.List.Basic
import SourceOutline.Text.Blank
import SourceOutline.Text.Lowercase

set_option autoImplicit false

/-! # Lower case is final

Text in lower case is its own lower case (`lowercase_lowercase`), although the lower case of a sigma
depends on what stands around it: no character has a capital in its lower case. The table tells so
run by run: the lower case of a run lies clear of every run, or it is made of the letters that
alternate with those of a run (`CaseRun.IsFinal`). Blanks and dots are the lower case of nothing but
themselves, a dot in front of a text changes no lower case in it, and neither does the case of its
ASCII letters. -/

namespace SourceOutline

/-! ## Runs -/

namespace CaseRun

/-- The lower case of the first code point of a run. -/
def lowerFirst (run : CaseRun) : Nat :=
  (run.first + run.offset).toNat

/-- The lower case of the last code point of a run. -/
def lowerLast (run : CaseRun) : Nat :=
  (run.last + run.offset).toNat

/-- Whether the lower case of a run lies clear of a range. -/
def clears (run : CaseRun) (range : Nat × Nat) : Bool :=
  Nat.blt run.lowerLast range.1 || Nat.blt range.2 run.lowerFirst

/-- Whether the lower case of a run is made of letters between the letters of a run. -/
def alternatesWith (run other : CaseRun) : Bool :=
  other.step == 2 && (run.step == 2 || run.first == run.last)
    && (run.lowerFirst + other.first) % 2 == 1

/-- The ranges of the characters that are the lower case of none but themselves: the blanks and the
    dot. -/
def plainRanges : CodeRanges :=
  blankRanges ++ [(0x2E, 0x2E)]

/-- The ranges of the capitals whose lower case the table does not tell. -/
def specialRanges : CodeRanges :=
  [(0x3A3, 0x3A3), (0x130, 0x130)]

/-- What holds of every run of the table. -/
structure IsFinal (run : CaseRun) : Prop where
  step : run.step = 1 ∨ run.step = 2
  nonneg : 0 ≤ run.first + run.offset
  valid : run.lowerLast < 0xD800 ∨ 0xDFFF < run.lowerFirst ∧ run.lowerLast < 0x110000
  unmapped : ∀ other ∈ lowerRuns,
    run.clears (other.first, other.last) = true ∨ run.alternatesWith other = true
  plain : ∀ range ∈ plainRanges,
    run.clears range = true ∧ (run.last < range.1 ∨ range.2 < run.first)
  special : ∀ range ∈ specialRanges, run.clears range = true

theorem isFinal_of_mem {run : CaseRun} (h : run ∈ lowerRuns) : run.IsFinal := by
  have hunmapped : (lowerRuns.all fun run => lowerRuns.all fun other =>
      run.clears (other.first, other.last) || run.alternatesWith other) = true := by
    decide +kernel
  have hrest : ∀ run ∈ lowerRuns, (run.step = 1 ∨ run.step = 2) ∧ 0 ≤ run.first + run.offset ∧
      (run.lowerLast < 0xD800 ∨ 0xDFFF < run.lowerFirst ∧ run.lowerLast < 0x110000) ∧
      (∀ range ∈ plainRanges,
        run.clears range = true ∧ (run.last < range.1 ∨ range.2 < run.first)) ∧
      ∀ range ∈ specialRanges, run.clears range = true := by decide +kernel
  obtain ⟨hstep, hnonneg, hvalid, hplain, hspecial⟩ := hrest run h
  refine ⟨hstep, hnonneg, hvalid, fun other hother => ?_, hplain, hspecial⟩
  have hrun := List.all_eq_true.1 (List.all_eq_true.1 hunmapped run h) other hother
  exact Bool.or_eq_true_iff.1 hrun

variable {run other : CaseRun} {n : Nat}

theorem maps_iff :
    run.maps n = true ↔ run.first ≤ n ∧ n ≤ run.last ∧ (n - run.first) % run.step = 0 := by
  simp [maps, and_assoc]

theorem IsFinal.lower_mem (h : run.IsFinal) (hmaps : run.maps n = true) :
    run.lowerFirst ≤ (n + run.offset).toNat ∧ (n + run.offset).toNat ≤ run.lowerLast := by
  obtain ⟨hfirst, hlast, -⟩ := maps_iff.1 hmaps
  have hnonneg := h.nonneg
  unfold lowerFirst lowerLast
  omega

/-- The lower case of a code point lies outside a range that its run lies clear of. -/
theorem IsFinal.lower_notMem (h : run.IsFinal) (hmaps : run.maps n = true) {range : Nat × Nat}
    (hclears : run.clears range = true) :
    ¬ (range.1 ≤ (n + run.offset).toNat ∧ (n + run.offset).toNat ≤ range.2) := by
  obtain ⟨hfirst, hlast⟩ := h.lower_mem hmaps
  simp only [clears, Bool.or_eq_true, Nat.blt_eq] at hclears
  omega

theorem IsFinal.maps_lower (h : run.IsFinal) (hmaps : run.maps n = true)
    (hother : other ∈ lowerRuns) : other.maps (n + run.offset).toNat = false := by
  refine Bool.eq_false_iff.2 fun hboth => ?_
  obtain ⟨hafter, hbefore, hsteps⟩ := maps_iff.1 hboth
  rcases h.unmapped other hother with hclears | halternates
  · exact h.lower_notMem hmaps hclears ⟨hafter, hbefore⟩
  · -- both runs go by twos, from an even and an odd code point
    simp only [alternatesWith, lowerFirst, Bool.and_eq_true, Bool.or_eq_true, beq_iff_eq]
      at halternates
    obtain ⟨⟨htwo, hrun⟩, hparity⟩ := halternates
    obtain ⟨hfirst, hlast, hown⟩ := maps_iff.1 hmaps
    have hnonneg := h.nonneg
    rw [htwo] at hsteps
    rcases hrun with hrun | hrun
    · rw [hrun] at hown
      omega
    · omega

end CaseRun

/-! ## Characters -/

theorem lowerChar_cases (c : Char) :
    (lowerChar c = c ∧ ∀ run ∈ lowerRuns, run.maps c.toNat = false) ∨
      ∃ run ∈ lowerRuns, run.maps c.toNat = true ∧
        (lowerChar c).toNat = (c.toNat + run.offset).toNat := by
  unfold lowerChar
  cases hfind : lowerRuns.find? (·.maps c.toNat) with
  | none =>
    refine .inl ⟨rfl, fun run hrun => Bool.eq_false_iff.2 ?_⟩
    exact List.find?_eq_none.1 hfind run hrun
  | some run =>
    have hmem := List.mem_of_find?_eq_some hfind
    have hmaps : run.maps c.toNat = true := by simpa using List.find?_some hfind
    have hfinal := CaseRun.isFinal_of_mem hmem
    obtain ⟨hfirst, hlast⟩ := hfinal.lower_mem hmaps
    have hvalid : (c.toNat + run.offset).toNat.isValidChar := by
      have hrange := hfinal.valid
      unfold Nat.isValidChar
      omega
    refine .inr ⟨run, hmem, hmaps, ?_⟩
    have hchar : Char.ofNat (c.toNat + run.offset).toNat = Char.ofNatAux _ hvalid :=
      dif_pos hvalid
    exact congrArg Char.toNat hchar

theorem lowerChar_lowerChar (c : Char) : lowerChar (lowerChar c) = lowerChar c := by
  rcases lowerChar_cases c with ⟨hself, -⟩ | ⟨run, hrun, hmaps, hlower⟩
  · rw [hself, hself]
  · rcases lowerChar_cases (lowerChar c) with ⟨hself, -⟩ | ⟨other, hother, hboth, -⟩
    · exact hself
    · rw [hlower, (CaseRun.isFinal_of_mem hrun).maps_lower hmaps hother] at hboth
      cases hboth

/-- A character and its lower case are the same, or both lie outside the ranges of the characters
    that are the lower case of none but themselves. -/
theorem lowerChar_plain (c : Char) : lowerChar c = c ∨
    ∀ range ∈ CaseRun.plainRanges, ¬ (range.1 ≤ c.toNat ∧ c.toNat ≤ range.2) ∧
      ¬ (range.1 ≤ (lowerChar c).toNat ∧ (lowerChar c).toNat ≤ range.2) := by
  rcases lowerChar_cases c with ⟨hself, -⟩ | ⟨run, hrun, hmaps, hlower⟩
  · exact .inl hself
  · refine .inr fun range hrange => ?_
    have hfinal := CaseRun.isFinal_of_mem hrun
    obtain ⟨hclears, hapart⟩ := hfinal.plain range hrange
    obtain ⟨hfirst, hlast, -⟩ := CaseRun.maps_iff.1 hmaps
    refine ⟨by omega, ?_⟩
    rw [hlower]
    exact hfinal.lower_notMem hmaps hclears

theorem isBlank_lowerChar (c : Char) : isBlank (lowerChar c) = isBlank c := by
  rcases lowerChar_plain c with hself | hplain
  · rw [hself]
  · have hblank : ∀ d : Char, (∀ range ∈ CaseRun.plainRanges,
        ¬ (range.1 ≤ d.toNat ∧ d.toNat ≤ range.2)) → isBlank d = false := by
      refine fun d hd => Bool.eq_false_iff.2 fun hhas => ?_
      obtain ⟨range, hrange, hin⟩ := CodeRanges.exists_of_has hhas
      exact hd range (List.mem_append_left _ hrange) hin
    rw [hblank c fun range hrange => (hplain range hrange).1,
      hblank _ fun range hrange => (hplain range hrange).2]

theorem lowerChar_eq_dot_iff {c : Char} : lowerChar c = '.' ↔ c = '.' := by
  rcases lowerChar_plain c with hself | hplain
  · rw [hself]
  · obtain ⟨hc, hlower⟩ := hplain (0x2E, 0x2E) (List.mem_append_right _ List.mem_cons_self)
    refine iff_of_false ?_ ?_
    · intro hdot
      rw [hdot] at hlower
      exact hlower (by decide)
    · rintro rfl
      exact hc (by decide)

/-- A character that lower-casing leaves as it is wherever it stands. -/
structure IsLower (c : Char) : Prop where
  lower : lowerChar c = c
  not_sigma : c ≠ 'Σ'
  not_dotted : c ≠ 'İ'

/-- The lower case of a character is such a character, unless the table does not tell it. -/
theorem isLower_lowerChar {c : Char} (hsigma : c ≠ 'Σ') (hdotted : c ≠ 'İ') :
    IsLower (lowerChar c) := by
  have hnot : ∀ d : Char, c ≠ d → (d.toNat, d.toNat) ∈ CaseRun.specialRanges → lowerChar c ≠ d := by
    intro d hne hspecial heq
    rcases lowerChar_cases c with ⟨hself, -⟩ | ⟨run, hrun, hmaps, hlower⟩
    · exact hne (hself.symm.trans heq)
    · have hfinal := CaseRun.isFinal_of_mem hrun
      refine hfinal.lower_notMem hmaps (hfinal.special _ hspecial) ?_
      rw [← hlower, heq]
      exact ⟨Nat.le_refl _, Nat.le_refl _⟩
  exact ⟨lowerChar_lowerChar c, hnot _ hsigma (by decide), hnot _ hdotted (by decide)⟩

/-! ## Texts -/

/-- The lower case of a character, for a sigma one of two. -/
inductive IsLoweredAs : Char → List Char → Prop
  | sigma {d : Char} (h : d = 'ς' ∨ d = 'σ') : IsLoweredAs 'Σ' [d]
  | dotted : IsLoweredAs 'İ' ['i', '\u0307']
  | other {c : Char} (hsigma : c ≠ 'Σ') (hdotted : c ≠ 'İ') : IsLoweredAs c [lowerChar c]

theorem exists_lowerFrom_cons (before : List Char) (c : Char) (rest : List Char) :
    ∃ letters, IsLoweredAs c letters ∧
      lowerFrom before (c :: rest) = letters ++ lowerFrom (c :: before) rest := by
  rw [lowerFrom]
  by_cases hsigma : c = 'Σ'
  · subst hsigma
    refine ⟨_, .sigma ?_, rfl⟩
    split <;> simp
  by_cases hdotted : c = 'İ'
  · subst hdotted
    exact ⟨_, .dotted, rfl⟩
  · exact ⟨_, .other hsigma hdotted, by simp only [if_neg hsigma, if_neg hdotted]⟩

namespace IsLoweredAs

variable {c : Char} {letters : List Char}

theorem ne_nil (h : IsLoweredAs c letters) : letters ≠ [] := by
  cases h <;> exact List.cons_ne_nil _ _

theorem isLower (h : IsLoweredAs c letters) : ∀ d ∈ letters, IsLower d := by
  have hletters : ∀ d ∈ ['ς', 'σ', 'i', '\u0307'], IsLower d := by
    have hall : ∀ d ∈ ['ς', 'σ', 'i', '\u0307'], lowerChar d = d ∧ d ≠ 'Σ' ∧ d ≠ 'İ' :=
      List.all_iff_forall_prop.1 (by decide +kernel)
    intro d hd
    obtain ⟨hlower, hsigma, hdotted⟩ := hall d hd
    exact ⟨hlower, hsigma, hdotted⟩
  intro d hd
  cases h with
  | sigma hform =>
    obtain rfl := List.mem_singleton.1 hd
    rcases hform with rfl | rfl
    · exact hletters _ (by decide)
    · exact hletters _ (by decide)
  | dotted => exact hletters d (List.mem_cons_of_mem _ (List.mem_cons_of_mem _ hd))
  | other hsigma hdotted =>
    obtain rfl := List.mem_singleton.1 hd
    exact isLower_lowerChar hsigma hdotted

theorem isBlank_eq (h : IsLoweredAs c letters) : ∀ d ∈ letters, isBlank d = isBlank c := by
  have hletters : ∀ d ∈ ['Σ', 'İ', 'ς', 'σ', 'i', '\u0307'], isBlank d = false :=
    List.all_iff_forall_prop.1 (by decide +kernel)
  intro d hd
  cases h with
  | sigma hform =>
    obtain rfl := List.mem_singleton.1 hd
    rw [hletters 'Σ' (by decide)]
    rcases hform with rfl | rfl
    · exact hletters _ (by decide)
    · exact hletters _ (by decide)
  | dotted =>
    rw [hletters 'İ' (by decide)]
    exact hletters d (List.mem_append_right ['Σ', 'İ', 'ς', 'σ'] hd)
  | other =>
    obtain rfl := List.mem_singleton.1 hd
    exact isBlank_lowerChar c

theorem head?_eq_dot_iff (h : IsLoweredAs c letters) : letters.head? = some '.' ↔ c = '.' := by
  cases h with
  | sigma hform => rcases hform with rfl | rfl <;> decide
  | dotted => decide
  | other => rw [List.head?_cons, Option.some.injEq, lowerChar_eq_dot_iff]

end IsLoweredAs

theorem isLower_of_mem_lowerFrom {before text : List Char} {d : Char}
    (h : d ∈ lowerFrom before text) : IsLower d := by
  induction text generalizing before with
  | nil => cases h
  | cons c rest ih =>
    obtain ⟨letters, hletters, heq⟩ := exists_lowerFrom_cons before c rest
    rw [heq] at h
    rcases List.mem_append.1 h with hhere | hlater
    · exact hletters.isLower d hhere
    · exact ih hlater

theorem lowerFrom_eq_self {text : List Char} (h : ∀ c ∈ text, IsLower c) (before : List Char) :
    lowerFrom before text = text := by
  induction text generalizing before with
  | nil => rfl
  | cons c rest ih =>
    obtain ⟨hlower, hsigma, hdotted⟩ := h c List.mem_cons_self
    rw [lowerFrom, if_neg hsigma, if_neg hdotted, hlower,
      ih (fun d hd => h d (List.mem_cons_of_mem _ hd))]
    rfl

theorem lowercase_lowercase (text : String) : lowercase (lowercase text) = lowercase text := by
  unfold lowercase
  rw [String.toList_ofList, lowerFrom_eq_self fun _ => isLower_of_mem_lowerFrom]

theorem head?_lowerFrom (before : List Char) (c : Char) (rest : List Char) :
    ∃ d tail, lowerFrom before (c :: rest) = d :: tail ∧ isBlank d = isBlank c ∧
      (d = '.' ↔ c = '.') ∧ (rest ≠ [] → tail ≠ []) := by
  obtain ⟨letters, hletters, heq⟩ := exists_lowerFrom_cons before c rest
  obtain ⟨d, more, rfl⟩ := List.exists_cons_of_ne_nil hletters.ne_nil
  refine ⟨d, more ++ lowerFrom (c :: before) rest, heq,
    hletters.isBlank_eq d List.mem_cons_self, ?_, ?_⟩
  · rw [← hletters.head?_eq_dot_iff, List.head?_cons, Option.some.injEq]
  · intro hne
    obtain ⟨next, others, rfl⟩ := List.exists_cons_of_ne_nil hne
    obtain ⟨second, hsecond, heq'⟩ := exists_lowerFrom_cons (c :: before) next others
    rw [heq']
    exact List.append_ne_nil_of_right_ne_nil _
      (List.append_ne_nil_of_left_ne_nil hsecond.ne_nil _)

theorem getLast?_lowerFrom {text : List Char} {d : Char} (before : List Char)
    (h : d ∈ (lowerFrom before text).getLast?) :
    ∃ c ∈ text.getLast?, isBlank d = isBlank c := by
  induction text generalizing before with
  | nil => cases h
  | cons c rest ih =>
    obtain ⟨letters, hletters, heq⟩ := exists_lowerFrom_cons before c rest
    rw [heq] at h
    cases rest with
    | nil =>
      rw [lowerFrom, List.append_nil] at h
      exact ⟨c, rfl, hletters.isBlank_eq d (List.mem_of_mem_getLast? h)⟩
    | cons next others =>
      obtain ⟨second, tail, hsecond, -⟩ := head?_lowerFrom (c :: before) next others
      have hlast : (letters ++ lowerFrom (c :: before) (next :: others)).getLast?
          = (lowerFrom (c :: before) (next :: others)).getLast? := by
        rw [hsecond, List.getLast?_append_cons]
      rw [hlast] at h
      rw [List.getLast?_cons_cons]
      exact ih (c :: before) h

/-! ## What stands around a text -/

theorem startsCased_append_dot (before : List Char) :
    startsCased (before ++ ['.']) = startsCased before := by
  have hdot : caseIgnorableRanges.has '.'.toNat = true := by decide +kernel
  unfold startsCased
  induction before with
  | nil => rw [List.nil_append, List.dropWhile_cons, hdot, if_pos rfl]
  | cons c rest ih =>
    rw [List.cons_append, List.dropWhile_cons, List.dropWhile_cons]
    by_cases hc : caseIgnorableRanges.has c.toNat = true
    · rw [if_pos hc, if_pos hc]
      exact ih
    · rw [if_neg hc, if_neg hc]

/-- A dot far to the left changes no lower case. -/
theorem lowerFrom_append_dot (before text : List Char) :
    lowerFrom (before ++ ['.']) text = lowerFrom before text := by
  induction text generalizing before with
  | nil => rfl
  | cons c rest ih =>
    have hrest := ih (c :: before)
    rw [List.cons_append] at hrest
    rw [lowerFrom, lowerFrom, hrest, startsCased_append_dot]

theorem lowerFrom_dot_cons (text : List Char) :
    lowerFrom [] ('.' :: text) = '.' :: lowerFrom [] text := by
  have hlower : lowerChar '.' = '.' := lowerChar_eq_dot_iff.2 rfl
  have hrest := lowerFrom_append_dot [] text
  rw [List.nil_append] at hrest
  rw [lowerFrom, if_neg (by decide), if_neg (by decide), hlower, hrest]
  rfl

/-! ## ASCII letters -/

/-- The capitals among the ASCII letters. -/
def asciiCapitals : List Char :=
  "ABCDEFGHIJKLMNOPQRSTUVWXYZ".toList

theorem toLower_eq_self {c : Char} (h : c ∉ asciiCapitals) : c.toLower = c := by
  unfold Char.toLower
  refine dif_neg fun ⟨hfirst, hlast⟩ => h ?_
  have hall : ∀ n < 26, Char.ofNat (0x41 + n) ∈ asciiCapitals := by decide
  have hfirst' : 0x41 ≤ c.toNat := hfirst
  have hlast' : c.toNat ≤ 0x5A := hlast
  have hmem := hall (c.toNat - 0x41) (by omega)
  rwa [Nat.add_sub_cancel' hfirst', Char.ofNat_toNat] at hmem

/-- Whether a character has a lower case of its own makes no difference to any of the tables. -/
theorem toLower_spec (c : Char) : lowerChar c.toLower = lowerChar c ∧
    (c.toLower = 'Σ' ↔ c = 'Σ') ∧ (c.toLower = 'İ' ↔ c = 'İ') ∧
    casedRanges.has c.toLower.toNat = casedRanges.has c.toNat ∧
    caseIgnorableRanges.has c.toLower.toNat = caseIgnorableRanges.has c.toNat ∧
    isBlank c.toLower = isBlank c := by
  by_cases hcapital : c ∈ asciiCapitals
  · have hall : ∀ c ∈ asciiCapitals, lowerChar c.toLower = lowerChar c ∧
        (c.toLower = 'Σ' ↔ c = 'Σ') ∧ (c.toLower = 'İ' ↔ c = 'İ') ∧
        casedRanges.has c.toLower.toNat = casedRanges.has c.toNat ∧
        caseIgnorableRanges.has c.toLower.toNat = caseIgnorableRanges.has c.toNat ∧
        isBlank c.toLower = isBlank c := List.all_iff_forall_prop.1 (by decide +kernel)
    exact hall c hcapital
  · rw [toLower_eq_self hcapital]
    simp

theorem startsCased_map_toLower (text : List Char) :
    startsCased (text.map Char.toLower) = startsCased text := by
  unfold startsCased
  induction text with
  | nil => rfl
  | cons c rest ih =>
    obtain ⟨-, -, -, hcased, hignorable, -⟩ := toLower_spec c
    rw [List.map_cons, List.dropWhile_cons, List.dropWhile_cons, hignorable]
    by_cases hc : caseIgnorableRanges.has c.toNat = true
    · rw [if_pos hc, if_pos hc]
      exact ih
    · rw [if_neg hc, if_neg hc]
      exact hcased

/-- Texts that differ in the case of ASCII letters only have the same lower case. -/
theorem lowerFrom_map_toLower (before text : List Char) :
    lowerFrom (before.map Char.toLower) (text.map Char.toLower) = lowerFrom before text := by
  induction text generalizing before with
  | nil => rfl
  | cons c rest ih =>
    obtain ⟨hlower, hsigma, hdotted, -⟩ := toLower_spec c
    have hrest := ih (c :: before)
    rw [List.map_cons] at hrest
    rw [List.map_cons, lowerFrom, lowerFrom, hrest, startsCased_map_toLower,
      startsCased_map_toLower, hlower]
    simp only [hsigma, hdotted]

end SourceOutline
