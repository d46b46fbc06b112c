import Mathlib.Data.Bool.AllAny
import SourceOutline.Text.Split
import SourceOutline.Toml.Layout

set_option autoImplicit false

/-! # Texts and keys of the layout are read back

A text of printable characters, line feeds and tabs stands in double quotes, each character as
itself or as a backslash with a letter (`isQuotedAs_quoteChar`), and it is read back
(`readString?_inQuotes`). Keys are bare if they can be, and texts otherwise; with dots between them
they make the path of a section, which is read back too (`readKey?_pathText`). -/

namespace SourceOutline.Toml

/-! ## Characters -/

theorem isForbidden_of_isPrintable {c : Char} (h : isPrintable c = true) :
    isForbidden c = false := by
  have hlow : ∀ n < 0x20, printableRanges.has n = false := by decide +kernel
  have hdelete : printableRanges.has 0x7F = false := by decide +kernel
  unfold isPrintable at h
  unfold isForbidden
  by_cases hcontrol : c.toNat < 0x20
  · rw [hlow _ hcontrol] at h
    cases h
  by_cases hlast : c.toNat = 0x7F
  · rw [hlast, hdelete] at h
    cases h
  simp [hcontrol, hlast]

/-- How a plain character stands between quotes: after a backslash if it is the quote or a backslash
    itself, as a letter after a backslash if it is a tab or a line feed, and as itself otherwise. -/
inductive IsQuotedAs (quote : Char) : Char → List Char → Prop
  | quote : IsQuotedAs quote quote ['\\', quote]
  | backslash : IsQuotedAs quote '\\' ['\\', '\\']
  | tab : IsQuotedAs quote '\t' ['\\', 't']
  | lineFeed : IsQuotedAs quote '\n' ['\\', 'n']
  | itself {c : Char} (hquote : c ≠ quote) (hbackslash : c ≠ '\\')
      (hprintable : isPrintable c = true) : IsQuotedAs quote c [c]

/-- A plain character is quoted in one of these ways. -/
theorem isQuotedAs_quoteChar {c : Char} (quote : Char) (h : IsPlainChar c) :
    IsQuotedAs quote c (quoteChar quote c) := by
  unfold quoteChar
  by_cases hquote : c = quote
  · subst hquote
    simp only [decide_true, Bool.true_or, if_true]
    exact .quote
  by_cases hbackslash : c = '\\'
  · subst hbackslash
    simp only [decide_true, Bool.or_true, if_true]
    exact .backslash
  simp only [hquote, hbackslash, decide_false, Bool.or_self, Bool.false_eq_true, if_false]
  rcases h with hprintable | rfl | rfl
  · have hforbidden := isForbidden_of_isPrintable hprintable
    have htab : c ≠ '\t' := by rintro rfl; revert hprintable; decide +kernel
    have hfeed : c ≠ '\n' := by rintro rfl; revert hprintable; decide +kernel
    have hreturn : c ≠ '\r' := by rintro rfl; revert hprintable; decide +kernel
    rw [if_neg htab, if_neg hfeed, if_neg hreturn, if_pos hprintable]
    exact .itself hquote hbackslash hprintable
  · exact .lineFeed
  · exact .tab

/-! ## Escaped texts -/

/-- An escaped text starts with a character other than a backslash only if the text does, and not
    with the quote. -/
theorem head?_escaped {quote c : Char} {text : List Char} (hplain : IsPlainText text)
    (hc : c ≠ '\\') (h : c = quote ∨ text.head? ≠ some c) :
    (escaped quote text).head? ≠ some c := by
  cases text with
  | nil => nofun
  | cons d rest =>
    have hform := isQuotedAs_quoteChar quote (hplain d List.mem_cons_self)
    rw [escaped, List.flatMap_cons]
    generalize quoteChar quote d = form at hform
    intro hhead
    cases hform with
    | itself hquote _ _ =>
      have hdc : d = c := Option.some.inj hhead
      rcases h with rfl | hne
      · exact hquote hdc
      · exact hne (congrArg some hdc)
    | _ => exact hc (Option.some.inj hhead).symm

theorem readBasic_escaped {text : List Char} (h : IsPlainText text) (rest : List Char) :
    readBasic (escaped '"' text ++ '"' :: rest) = some (text, rest) := by
  induction text with
  | nil => rfl
  | cons c more ih =>
    have hmore : IsPlainText more := fun d hd => h d (List.mem_cons_of_mem _ hd)
    have hlater := ih hmore
    have hform := isQuotedAs_quoteChar '"' (h c List.mem_cons_self)
    rw [escaped, List.flatMap_cons, ← escaped, List.append_assoc]
    generalize quoteChar '"' c = form at hform
    cases hform with
    | quote => simp [readBasic, shortEscape?, hlater, consRead]
    | backslash => simp [readBasic, shortEscape?, hlater, consRead]
    | tab => simp [readBasic, shortEscape?, hlater, consRead]
    | lineFeed => simp [readBasic, shortEscape?, hlater, consRead]
    | itself _ hbackslash hprintable =>
      have hforbidden := isForbidden_of_isPrintable hprintable
      simp [readBasic, hbackslash, hforbidden, hlater, consRead]

/-- After one double quote a text in double quotes is read, unless two more begin a long one. -/
theorem readString?_of_ne {text : List Char} (h : ∀ rest, text ≠ '"' :: '"' :: rest) :
    readString? ('"' :: text)
      = (readBasic text).map fun (cs, rest) => (String.ofList cs, rest) := by
  unfold readString?
  split
  case h_1 heq => exact absurd (List.cons.inj heq).2 (h _)
  case h_2 heq => rw [(List.cons.inj heq).2]
  case h_3 heq => exact absurd (List.cons.inj heq).1 (by decide)
  case h_4 heq => exact absurd (List.cons.inj heq).1 (by decide)
  case h_5 hbasic _ _ => exact absurd rfl (hbasic text)

theorem inQuotes_append (text rest : List Char) :
    inQuotes text ++ rest = '"' :: (escaped '"' text ++ '"' :: rest) := by
  simp [inQuotes]

/-- A text in quotes is read back, if no quote comes right after it. -/
theorem readString?_inQuotes {text rest : List Char} (h : IsPlainText text)
    (hrest : rest.head? ≠ some '"') :
    readString? (inQuotes text ++ rest) = some (String.ofList text, rest) := by
  have hne : ∀ tail, escaped '"' text ++ '"' :: rest ≠ '"' :: '"' :: tail := by
    intro tail heq
    cases htext : escaped '"' text with
    | nil =>
      rw [htext, List.nil_append] at heq
      exact hrest (by rw [(List.cons.inj heq).2]; rfl)
    | cons c more =>
      rw [htext, List.cons_append] at heq
      refine head?_escaped h (by decide) (.inl rfl) (?_ : (escaped '"' text).head? = some '"')
      rw [htext, List.head?_cons, (List.cons.inj heq).1]
  rw [inQuotes_append, readString?_of_ne hne, readBasic_escaped h]
  rfl

/-! ## Keys -/

theorem IsPlainKey.isPlainText {key : String} (h : IsPlainKey key) : IsPlainText key.toList :=
  fun c hc => .inl (h.printable c hc)

/-- A character that a written key can start with. -/
def StartsKey (c : Char) : Prop :=
  isBareKeyChar c = true ∨ c = '"'

theorem exists_keyText_eq_cons {key : String} (h : IsPlainKey key) :
    ∃ c tail, keyText key = c :: tail ∧ StartsKey c := by
  unfold keyText
  split
  case isTrue hbare =>
    obtain ⟨c, tail, hkey⟩ := List.exists_cons_of_ne_nil h.ne_nil
    rw [hkey] at hbare ⊢
    exact ⟨c, tail, rfl, .inl (List.all_eq_true.1 hbare c List.mem_cons_self)⟩
  case isFalse => exact ⟨_, _, rfl, .inr rfl⟩

theorem StartsKey.notMem {c : Char} (h : StartsKey c) :
    c ∉ [' ', '\t', '\n', '#', '[', ']', '.', '='] := by
  intro hmem
  have hall : ∀ d ∈ [' ', '\t', '\n', '#', '[', ']', '.', '='],
      isBareKeyChar d = false ∧ d ≠ '"' := List.all_iff_forall_prop.1 (by decide)
  obtain ⟨hbare, hquote⟩ := hall c hmem
  rcases h with hstart | hstart
  · rw [hbare] at hstart
    cases hstart
  · exact hquote hstart

/-- A written key is read back, if no character comes right after it that could belong to it. -/
theorem readKeyPart?_keyText {key : String} {c : Char} (rest : List Char) (h : IsPlainKey key)
    (hc : isBareKeyChar c = false) :
    readKeyPart? (keyText key ++ c :: rest) = some (key, c :: rest) := by
  unfold keyText
  split
  case isTrue hbare =>
    have hchars := List.all_eq_true.1 hbare
    have hnext : ∀ d ∈ (c :: rest).head?, isBareKeyChar d = false := by
      rintro d ⟨⟩
      exact hc
    have htake := takeWhile_append_of_head? hchars hnext
    have hdrop := dropWhile_append_of_head? hchars hnext
    obtain ⟨d, tail, hkey⟩ := List.exists_cons_of_ne_nil h.ne_nil
    have hd : isBareKeyChar d = true := hchars d (hkey ▸ List.mem_cons_self)
    unfold readKeyPart?
    split
    case h_1 heq =>
      rw [hkey] at heq
      rw [(List.cons.inj heq).1] at hd
      exact absurd hd (by decide)
    case h_2 heq =>
      rw [hkey] at heq
      rw [(List.cons.inj heq).1] at hd
      exact absurd hd (by decide)
    case h_3 =>
      rw [htake, hdrop, hkey]
      simp only
      rw [← hkey, String.ofList_toList]
  case isFalse =>
    rw [inQuotes_append, readKeyPart?, readBasic_escaped h.isPlainText (c :: rest)]
    exact congrArg (fun s => some (s, c :: rest)) String.ofList_toList

/-! ## Paths -/

theorem pathText_append {path : List String} (h : path ≠ []) (key : String) :
    pathText (path ++ [key]) = pathText path ++ '.' :: keyText key := by
  induction path with
  | nil => exact absurd rfl h
  | cons first rest ih =>
    cases rest with
    | nil => rfl
    | cons next others =>
      have hrest : pathText (next :: (others ++ [key])) = _ := ih (List.cons_ne_nil _ _)
      have hfirst : pathText (first :: next :: others)
          = keyText first ++ '.' :: pathText (next :: others) := rfl
      have hall : pathText (first :: next :: (others ++ [key]))
          = keyText first ++ '.' :: pathText (next :: (others ++ [key])) := rfl
      rw [List.cons_append, List.cons_append, hall, hrest, hfirst, List.append_assoc,
        List.cons_append]

theorem skipBlanks_cons {c : Char} (rest : List Char) (hspace : c ≠ ' ') (htab : c ≠ '\t') :
    skipBlanks (c :: rest) = c :: rest := by
  unfold skipBlanks
  rw [List.dropWhile_cons_of_neg (by simp [hspace, htab])]

theorem exists_pathText_eq_cons {path : List String} (hne : path ≠ [])
    (hplain : ∀ key ∈ path, IsPlainKey key) :
    ∃ c tail, pathText path = c :: tail ∧ StartsKey c := by
  cases path with
  | nil => exact absurd rfl hne
  | cons key rest =>
    obtain ⟨c, tail, hkey, hstart⟩ := exists_keyText_eq_cons (hplain key List.mem_cons_self)
    cases rest with
    | nil => exact ⟨c, tail, hkey, hstart⟩
    | cons next others =>
      refine ⟨c, tail ++ '.' :: pathText (next :: others), ?_, hstart⟩
      have hpath : pathText (key :: next :: others)
          = keyText key ++ '.' :: pathText (next :: others) := rfl
      rw [hpath, hkey, List.cons_append]

theorem skipBlanks_of_startsKey {c : Char} (h : StartsKey c) (rest : List Char) :
    skipBlanks (c :: rest) = c :: rest := by
  have hnot := h.notMem
  simp only [List.mem_cons, not_or] at hnot
  exact skipBlanks_cons rest hnot.1 hnot.2.1

/-- A path is read back up to what is neither part of it nor blank. -/
theorem readKey?_pathText {path : List String} {c : Char} (rest : List Char) (hne : path ≠ [])
    (hplain : ∀ key ∈ path, IsPlainKey key) (hc : isBareKeyChar c = false)
    (hdot : (skipBlanks (c :: rest)).head? ≠ some '.') :
    ∀ budget, path.length ≤ budget →
      readKey? budget (pathText path ++ c :: rest) = some (path, skipBlanks (c :: rest)) := by
  induction path with
  | nil => exact absurd rfl hne
  | cons key more ih =>
    intro budget hbudget
    obtain ⟨budget, rfl⟩ : ∃ n, budget = n + 1 :=
      ⟨budget - 1, by simp only [List.length_cons] at hbudget; omega⟩
    have hkey := hplain key List.mem_cons_self
    cases more with
    | nil =>
      have hread := readKeyPart?_keyText rest hkey hc
      rw [pathText, readKey?, hread]
      simp only [bind, Option.bind]
      split
      case h_1 heq => exact absurd (congrArg List.head? heq) hdot
      case h_2 => rfl
    | cons next others =>
      have hmore : ∀ k ∈ next :: others, IsPlainKey k :=
        fun k hk => hplain k (List.mem_cons_of_mem _ hk)
      have hlater := ih (by simp) hmore budget (Nat.le_of_succ_le_succ hbudget)
      -- the dot comes right after the key, and the next key right after the dot
      have hread := readKeyPart?_keyText (pathText (next :: others) ++ c :: rest) hkey
        (by decide : isBareKeyChar '.' = false)
      have hpoint : skipBlanks ('.' :: (pathText (next :: others) ++ c :: rest))
          = '.' :: (pathText (next :: others) ++ c :: rest) :=
        skipBlanks_cons _ (by decide) (by decide)
      have hskip : skipBlanks (pathText (next :: others) ++ c :: rest)
          = pathText (next :: others) ++ c :: rest := by
        obtain ⟨d, tail, hpath, hstart⟩ := exists_pathText_eq_cons (by simp) hmore
        rw [hpath, List.cons_append, skipBlanks_of_startsKey hstart]
      have hpath : pathText (key :: next :: others)
          = keyText key ++ '.' :: pathText (next :: others) := rfl
      rw [hpath, List.append_assoc, List.cons_append, readKey?, hread]
      simp only [bind, Option.bind, hpoint, hskip, hlater]
      rfl

theorem pathText_inj {path other : List String} (hne : path ≠ []) (hother : other ≠ [])
    (hplain : ∀ key ∈ path, IsPlainKey key) (hplainOther : ∀ key ∈ other, IsPlainKey key)
    (h : pathText path = pathText other) : path = other := by
  have hend : (skipBlanks [']']).head? ≠ some '.' := by decide
  have hbracket : isBareKeyChar ']' = false := by decide
  have hread := readKey?_pathText [] hne hplain hbracket hend (max path.length other.length)
    (Nat.le_max_left _ _)
  have hreadOther := readKey?_pathText [] hother hplainOther hbracket hend
    (max path.length other.length) (Nat.le_max_right _ _)
  rw [h, hreadOther] at hread
  exact (Prod.mk.inj (Option.some.inj hread)).1.symm

theorem length_le_pathText {path : List String} (hplain : ∀ key ∈ path, IsPlainKey key) :
    path.length ≤ (pathText path).length := by
  induction path with
  | nil => exact Nat.le_refl _
  | cons key rest ih =>
    have hrest := ih fun k hk => hplain k (List.mem_cons_of_mem _ hk)
    cases rest with
    | nil =>
      obtain ⟨c, tail, hkey, -⟩ := exists_keyText_eq_cons (hplain key List.mem_cons_self)
      simp [pathText, hkey]
    | cons next others =>
      have hpath : pathText (key :: next :: others)
          = keyText key ++ '.' :: pathText (next :: others) := rfl
      rw [hpath, List.length_append, List.length_cons (a := '.'), List.length_cons]
      omega

end SourceOutline.Toml
