import Mathlib.Data.List.Sort
import Mathlib.Data.List.TakeWhile
import SourceOutline.Proofs.Config.Merging
import SourceOutline.Proofs.Text.Lowercase

set_option autoImplicit false

/-! # Extensions are spelled alike

Settings spell extensions in one way: trimmed, in lower case, with a dot in front, sorted and each
once. What has been spelled so is spelled as it is (`extensionSpelling?_spelling`), and other ways
to write an extension have the same spelling (`IsRespelled`). A file is visited if the suffix of its
name, in lower case, is the spelling of one of the extensions that settings have been given
(`normalizeExtensions_canonical`). -/

namespace SourceOutline

/-! ## Trimming -/

section

variable {text left right : List Char}

/-- A text with no blanks around it. -/
structure IsTrimmed (text : List Char) : Prop where
  first : ∀ c ∈ text.head?, isBlank c = false
  last : ∀ c ∈ text.getLast?, isBlank c = false

theorem trimLeft_eq_self (h : ∀ c ∈ text.head?, isBlank c = false) : trimLeft text = text := by
  cases text with
  | nil => rfl
  | cons c rest =>
    have hc := h c rfl
    rw [trimLeft, List.dropWhile_cons, hc, if_neg Bool.false_ne_true]

theorem head?_trimLeft (text : List Char) : ∀ c ∈ (trimLeft text).head?, isBlank c = false :=
  head?_dropWhile_eq_false isBlank text

theorem trimLeft_append (h : ∀ c ∈ left, isBlank c = true) :
    trimLeft (left ++ text) = trimLeft text :=
  List.dropWhile_append_of_pos h

theorem trimRight_eq (text : List Char) : trimRight text = (trimLeft text.reverse).reverse := rfl

theorem trim_eq_self (h : IsTrimmed text) : trim text = text := by
  have hlast : ∀ c ∈ text.reverse.head?, isBlank c = false := by
    rw [List.head?_reverse]
    exact h.last
  rw [trim, trimLeft_eq_self h.first, trimRight_eq, trimLeft_eq_self hlast, List.reverse_reverse]

theorem isTrimmed_trim (text : List Char) : IsTrimmed (trim text) where
  first := by
    intro c hc
    obtain ⟨dropped, hdropped⟩ := List.dropWhile_suffix (l := (trimLeft text).reverse) isBlank
    have hfront : trim text ++ dropped.reverse = trimLeft text := by
      rw [trim, trimRight, ← List.reverse_append, hdropped, List.reverse_reverse]
    refine head?_trimLeft text c ?_
    rw [← hfront, List.head?_append, Option.mem_def.1 hc]
    rfl
  last := by
    intro c hc
    rw [trim, trimRight_eq, List.getLast?_reverse] at hc
    exact head?_trimLeft _ c hc

theorem trim_append (hleft : ∀ c ∈ left, isBlank c = true)
    (hright : ∀ c ∈ right, isBlank c = true) :
    trim (left ++ text ++ right) = trim text := by
  have hreversed : ∀ c ∈ right.reverse, isBlank c = true :=
    fun c hc => hright c (List.mem_reverse.1 hc)
  rw [trim, List.append_assoc, trimLeft_append hleft]
  have happend : trimLeft (text ++ right)
      = if (trimLeft text).isEmpty = true then trimLeft right else trimLeft text ++ right :=
    List.dropWhile_append
  rw [happend]
  split
  case isTrue hempty =>
    have hall : trimLeft right = [] := List.dropWhile_eq_nil_iff.2 hright
    rw [hall, trim, List.isEmpty_iff.1 hempty]
  case isFalse =>
    rw [trimRight_eq, List.reverse_append, trimLeft_append hreversed, ← trimRight_eq, ← trim]

theorem trim_map_toLower (text : List Char) :
    trim (text.map Char.toLower) = (trim text).map Char.toLower := by
  have hblank : isBlank ∘ Char.toLower = isBlank :=
    funext fun c => (toLower_spec c).2.2.2.2.2
  have hleft : ∀ text : List Char,
      trimLeft (text.map Char.toLower) = (trimLeft text).map Char.toLower := by
    intro text
    rw [trimLeft, List.dropWhile_map, hblank, ← trimLeft]
  rw [trim, hleft, trimRight_eq, ← List.map_reverse, hleft, ← List.map_reverse, ← trimRight_eq,
    ← trim]

end

/-! ## One extension -/

/-- A text with a dot in front. -/
def dotted : List Char → List Char
  | '.' :: rest => '.' :: rest
  | letters => '.' :: letters

theorem dotted_cases (text : List Char) :
    dotted text = text ∧ text.head? = some '.' ∨
      dotted text = '.' :: text ∧ text.head? ≠ some '.' := by
  unfold dotted
  split
  case h_1 rest => exact .inl ⟨rfl, rfl⟩
  case h_2 hne =>
    refine .inr ⟨rfl, fun hhead => ?_⟩
    obtain ⟨rest, rfl⟩ := List.head?_eq_some_iff.1 hhead
    exact hne rest rfl

theorem head?_dotted (text : List Char) : (dotted text).head? = some '.' := by
  rcases dotted_cases text with ⟨heq, hhead⟩ | ⟨heq, -⟩
  · rw [heq, hhead]
  · rw [heq, List.head?_cons]

theorem dotted_of_head? {text : List Char} (h : text.head? = some '.') : dotted text = text := by
  obtain ⟨rest, rfl⟩ := List.head?_eq_some_iff.1 h
  rfl

/-- The spelling of an extension: trimmed, in lower case, with a dot in front. -/
def spelling (extension : String) : String :=
  String.ofList (dotted (lowerFrom [] (trim extension.toList)))

theorem lowerFrom_eq_nil_iff {before text : List Char} :
    lowerFrom before text = [] ↔ text = [] := by
  cases text with
  | nil => exact iff_of_true rfl rfl
  | cons c rest =>
    obtain ⟨d, tail, heq, -⟩ := head?_lowerFrom before c rest
    rw [heq]
    exact iff_of_false (List.cons_ne_nil _ _) (List.cons_ne_nil _ _)

theorem extensionSpelling?_eq (extension : String) :
    extensionSpelling? extension
      = if trim extension.toList = [] then none else some (spelling extension) := by
  have hempty : trim extension.toList = [] ↔ lowerFrom [] (trim extension.toList) = [] :=
    lowerFrom_eq_nil_iff.symm
  simp only [extensionSpelling?, lowercase, spelling, String.toList_ofList, hempty]
  generalize lowerFrom [] (trim extension.toList) = letters
  rcases dotted_cases letters with ⟨heq, hhead⟩ | ⟨heq, hhead⟩
  · obtain ⟨rest, rfl⟩ := List.head?_eq_some_iff.1 hhead
    rfl
  · cases letters with
    | nil => rfl
    | cons c rest =>
      rw [heq, if_neg (List.cons_ne_nil _ _)]
      split
      case h_1 hnil => cases hnil
      case h_2 hdot =>
        cases hdot
        exact absurd rfl hhead
      case h_3 => rfl

theorem isTrimmed_spelling {extension : String} (hne : trim extension.toList ≠ []) :
    IsTrimmed (spelling extension).toList where
  first := by
    intro c hc
    rw [spelling, String.toList_ofList, head?_dotted] at hc
    cases hc
    decide +kernel
  last := by
    intro c hc
    rw [spelling, String.toList_ofList] at hc
    have hlast : c ∈ (lowerFrom [] (trim extension.toList)).getLast? := by
      rcases dotted_cases (lowerFrom [] (trim extension.toList)) with ⟨heq, -⟩ | ⟨heq, -⟩
      · rwa [heq] at hc
      · obtain ⟨d, rest, hrest⟩ := List.exists_cons_of_ne_nil (mt lowerFrom_eq_nil_iff.1 hne)
        rw [heq, hrest, List.getLast?_cons_cons, ← hrest] at hc
        exact hc
    obtain ⟨d, hd, hblank⟩ := getLast?_lowerFrom [] hlast
    rw [hblank]
    exact (isTrimmed_trim _).last d hd

theorem isLower_of_mem_spelling {extension : String} {c : Char}
    (h : c ∈ (spelling extension).toList) : IsLower c := by
  rw [spelling, String.toList_ofList] at h
  rcases dotted_cases (lowerFrom [] (trim extension.toList)) with ⟨heq, -⟩ | ⟨heq, -⟩
  · rw [heq] at h
    exact isLower_of_mem_lowerFrom h
  · rw [heq] at h
    rcases List.mem_cons.1 h with rfl | hmem
    · exact ⟨lowerChar_eq_dot_iff.2 rfl, by decide, by decide⟩
    · exact isLower_of_mem_lowerFrom hmem

/-- A spelling is its own spelling. -/
theorem extensionSpelling?_spelling {extension : String} (hne : trim extension.toList ≠ []) :
    extensionSpelling? (spelling extension) = some (spelling extension) := by
  have htrim := trim_eq_self (isTrimmed_spelling hne)
  have hhead : (spelling extension).toList.head? = some '.' := by
    rw [spelling, String.toList_ofList, head?_dotted]
  have hnonempty : (spelling extension).toList ≠ [] := by
    intro hnil
    rw [hnil] at hhead
    cases hhead
  have hself : spelling (spelling extension) = spelling extension := by
    rw [spelling, htrim, lowerFrom_eq_self (fun _ => isLower_of_mem_spelling),
      dotted_of_head? hhead, String.ofList_toList]
  rw [extensionSpelling?_eq, htrim, if_neg hnonempty, hself]

/-! ## Other ways to write an extension -/

/-- Ways to write an extension that make no difference: with blanks around it, with ASCII letters of
    the other case, and with a dot in front of a trimmed one that has none. -/
inductive IsRespelled : String → String → Prop
  | spaced {extension : String} {left right : List Char} (hleft : ∀ c ∈ left, isBlank c = true)
      (hright : ∀ c ∈ right, isBlank c = true) :
      IsRespelled extension (String.ofList (left ++ extension.toList ++ right))
  | recased {extension other : String}
      (h : extension.toList.map Char.toLower = other.toList.map Char.toLower) :
      IsRespelled extension other
  | dotted {extension : String} (htrim : trim extension.toList = extension.toList)
      (hne : extension ≠ "") (hdot : extension.toList.head? ≠ some '.') :
      IsRespelled extension ("." ++ extension)

theorem head?_lowerFrom_eq_dot_iff {before text : List Char} :
    (lowerFrom before text).head? = some '.' ↔ text.head? = some '.' := by
  cases text with
  | nil => rfl
  | cons c rest =>
    obtain ⟨d, tail, heq, -, hdot, -⟩ := head?_lowerFrom before c rest
    rw [heq, List.head?_cons, List.head?_cons, Option.some.injEq, Option.some.injEq, hdot]

/-- An extension that is written in another way has the same spelling. -/
theorem IsRespelled.extensionSpelling?_eq {extension other : String}
    (h : IsRespelled extension other) :
    extensionSpelling? other = extensionSpelling? extension := by
  rw [SourceOutline.extensionSpelling?_eq, SourceOutline.extensionSpelling?_eq]
  cases h with
  | spaced hleft hright =>
    rw [spelling, String.toList_ofList, trim_append hleft hright, ← spelling]
  | recased h =>
    have htrim : (trim extension.toList).map Char.toLower
        = (trim other.toList).map Char.toLower := by
      rw [← trim_map_toLower, h, trim_map_toLower]
    have hempty : trim other.toList = [] ↔ trim extension.toList = [] := by
      rw [← List.map_eq_nil_iff (f := Char.toLower), ← htrim, List.map_eq_nil_iff]
    have hlower : lowerFrom [] (trim other.toList) = lowerFrom [] (trim extension.toList) := by
      rw [← lowerFrom_map_toLower, ← htrim, lowerFrom_map_toLower]
    simp only [hempty, spelling, hlower]
  | dotted htrim hne hdot =>
    have hletters : ("." ++ extension).toList = '.' :: extension.toList := String.toList_append
    have hnonempty : extension.toList ≠ [] := fun hnil => hne (String.toList_eq_nil_iff.1 hnil)
    have htrimmed : IsTrimmed ('.' :: extension.toList) := by
      have hends := isTrimmed_trim extension.toList
      rw [htrim] at hends
      refine ⟨fun c hc => ?_, fun c hc => ?_⟩
      · cases hc
        decide +kernel
      · obtain ⟨d, rest, hrest⟩ := List.exists_cons_of_ne_nil hnonempty
        rw [hrest, List.getLast?_cons_cons, ← hrest] at hc
        exact hends.last c hc
    have hlower : (lowerFrom [] extension.toList).head? ≠ some '.' :=
      mt head?_lowerFrom_eq_dot_iff.1 hdot
    have hdotted := (dotted_cases (lowerFrom [] extension.toList)).resolve_left
      fun hcase => hlower hcase.2
    rw [spelling, spelling, hletters, trim_eq_self htrimmed, htrim, lowerFrom_dot_cons,
      dotted_of_head? rfl, hdotted.1, if_neg (List.cons_ne_nil _ _), if_neg hnonempty]

/-! ## Many extensions -/

theorem mem_normalizeExtensions {extensions : List String} {other : String} :
    other ∈ normalizeExtensions extensions ↔
      ∃ extension ∈ extensions, extensionSpelling? extension = some other := by
  rw [normalizeExtensions, mem_sortedDistinct, List.mem_filterMap]

theorem pairwise_normalizeExtensions (extensions : List String) :
    (normalizeExtensions extensions).Pairwise (· < ·) :=
  pairwise_sortedDistinct _

theorem normalizeExtensions_congr {extensions others : List String}
    (h : ∀ text, (∃ extension ∈ extensions, extensionSpelling? extension = some text) ↔
      ∃ other ∈ others, extensionSpelling? other = some text) :
    normalizeExtensions extensions = normalizeExtensions others := by
  refine (pairwise_normalizeExtensions extensions).eq_of_mem_iff
    (pairwise_normalizeExtensions others) fun text => ?_
  rw [mem_normalizeExtensions, mem_normalizeExtensions, h]

theorem head?_of_mem_normalizeExtensions {extensions : List String} {text : String}
    (h : text ∈ normalizeExtensions extensions) : text.toList.head? = some '.' := by
  obtain ⟨extension, -, hspelling⟩ := mem_normalizeExtensions.1 h
  rw [extensionSpelling?_eq] at hspelling
  split at hspelling
  case isTrue => cases hspelling
  case isFalse =>
    cases hspelling
    rw [spelling, String.toList_ofList, head?_dotted]

theorem normalizeExtensions_normalizeExtensions (extensions : List String) :
    normalizeExtensions (normalizeExtensions extensions) = normalizeExtensions extensions := by
  have hself : ∀ text ∈ normalizeExtensions extensions, extensionSpelling? text = some text := by
    intro text htext
    obtain ⟨extension, -, hspelling⟩ := mem_normalizeExtensions.1 htext
    rw [extensionSpelling?_eq] at hspelling
    split at hspelling
    case isTrue => cases hspelling
    case isFalse hne =>
      cases hspelling
      exact extensionSpelling?_spelling hne
  refine normalizeExtensions_congr fun text => ?_
  constructor
  · rintro ⟨other, hother, hspelling⟩
    rw [hself other hother] at hspelling
    exact mem_normalizeExtensions.1 (Option.some.inj hspelling ▸ hother)
  · intro hspelling
    have htext := mem_normalizeExtensions.2 hspelling
    exact ⟨text, htext, hself text htext⟩

/-- Other ways to write extensions that make no difference: in another order, with one of them
    repeated, and with one of them written in another way. -/
inductive AreRespelled : List String → List String → Prop
  | reordered {extensions others : List String} (h : extensions.Perm others) :
      AreRespelled extensions others
  | repeated {extensions : List String} {extension : String} (h : extension ∈ extensions) :
      AreRespelled extensions (extension :: extensions)
  | respelled {extension other : String} (before after : List String)
      (h : IsRespelled extension other) :
      AreRespelled (before ++ extension :: after) (before ++ other :: after)

/-- Extensions that are written in another way are the same for settings. -/
theorem AreRespelled.normalizeExtensions_eq {extensions others : List String}
    (h : AreRespelled extensions others) :
    normalizeExtensions others = normalizeExtensions extensions := by
  refine normalizeExtensions_congr fun text => ?_
  cases h with
  | reordered hperm => simp only [hperm.mem_iff]
  | repeated hmem =>
    simp only [List.exists_mem_cons_iff, or_iff_right_iff_imp]
    exact fun hspelling => ⟨_, hmem, hspelling⟩
  | respelled before after hrespelled =>
    simp only [List.mem_append, List.mem_cons, or_and_right, exists_or, exists_eq_left,
      hrespelled.extensionSpelling?_eq]

/-! ## Which files are visited -/

theorem nameSuffix_cases (name : String) : nameSuffix name = "" ∨
    ∃ c rest, nameSuffix name = String.ofList ('.' :: c :: rest) := by
  simp only [nameSuffix]
  split
  case isTrue => exact .inl rfl
  case isFalse hnot =>
    simp only [Bool.or_eq_true, List.isEmpty_iff, not_or] at hnot
    have hne := mt List.reverse_eq_nil_iff.1 hnot.1
    obtain ⟨c, rest, hrest⟩ := List.exists_cons_of_ne_nil hne
    exact .inr ⟨c, rest, by rw [hrest]⟩

theorem lowercase_nameSuffix_ne_dot (name : String) : lowercase (nameSuffix name) ≠ "." := by
  rcases nameSuffix_cases name with hempty | ⟨c, rest, hsuffix⟩
  · rw [hempty]
    decide
  · intro hdot
    obtain ⟨d, tail, heq, -, -, htail⟩ := head?_lowerFrom [] '.' (c :: rest)
    have hletters := congrArg String.toList hdot
    rw [hsuffix, lowercase, String.toList_ofList, String.toList_ofList, heq] at hletters
    have hlong := htail (List.cons_ne_nil _ _)
    exact hlong (List.cons.inj hletters).2

theorem spelling_of_blank {extension : String} (h : trim extension.toList = []) :
    spelling extension = "." := by
  rw [spelling, h]
  rfl

/-- Settings with a list of texts as extensions visit a file if the suffix of its name, in lower
    case, is one of these. -/
theorem isSupported_of_texts {settings : Settings} {texts : List String}
    (h : settings.extensions = .list (texts.map .text)) (name : String) :
    settings.isSupported name = .ok (decide (lowercase (Path.ofText name).suffix ∈ texts)) := by
  have hany : (texts.map Value.text).any (Value.isText (lowercase (Path.ofText name).suffix))
      = decide (lowercase (Path.ofText name).suffix ∈ texts) := by
    rw [List.any_map, Bool.eq_iff_iff]
    simp [Value.isText]
  rw [Settings.isSupported, h, Value.holds, hany]

/-- Settings visit a file if the suffix of its name, in lower case, is the spelling of one of their
    extensions. -/
theorem isSupported_iff_of_extensions {settings : Settings} {extensions : List String}
    (h : settings.extensions = .list ((normalizeExtensions extensions).map .text)) (name : String) :
    ∃ supported, settings.isSupported name = .ok supported ∧ (supported = true ↔
      ∃ extension ∈ extensions, spelling extension = lowercase (Path.ofText name).suffix) := by
  refine ⟨_, isSupported_of_texts h name, ?_⟩
  have hdot := lowercase_nameSuffix_ne_dot (Path.ofText name).fileName
  rw [← Path.suffix] at hdot
  rw [decide_eq_true_iff, mem_normalizeExtensions]
  refine exists_congr fun extension => and_congr_right fun _ => ?_
  rw [extensionSpelling?_eq]
  split
  case isTrue hblank =>
    rw [spelling_of_blank hblank]
    exact iff_of_false nofun hdot.symm
  case isFalse => rw [Option.some.injEq]

/-- Extensions come out of normalising in increasing order and with a dot in front, and stay as they
    are when they are normalised again; other ways to write them make no difference. Settings that
    are loaded with extensions visit a file just if the suffix of its name, in lower case, is the
    spelling of one of them. -/
theorem normalizeExtensions_canonical (extensions : List String) :
    (normalizeExtensions extensions).Pairwise (· < ·) ∧
    (∀ text ∈ normalizeExtensions extensions, text ≠ "" ∧ text.toList.head? = some '.') ∧
    normalizeExtensions (normalizeExtensions extensions) = normalizeExtensions extensions ∧
    (∀ others, AreRespelled extensions others →
      normalizeExtensions others = normalizeExtensions extensions) ∧
    ∀ (toml : Toml.Library) (volume : Volume) (path : Path) (extra : Value)
      (overrides table : List (String × Value)) (fixed : Bool) (settings : Settings),
      (overrides.map Prod.fst).Nodup →
      loadScanTable toml volume path = .ok table →
      chosen? table overrides "extensions" = some (.list (extensions.map .text) fixed) →
      loadSettings toml volume path extra overrides = .ok settings →
      ∀ name, ∃ supported, settings.isSupported name = .ok supported ∧ (supported = true ↔
        ∃ extension ∈ extensions, spelling extension = lowercase (Path.ofText name).suffix) := by
  refine ⟨pairwise_normalizeExtensions extensions, fun text htext => ?_,
    normalizeExtensions_normalizeExtensions extensions, fun _ => (·.normalizeExtensions_eq), ?_⟩
  · have hhead := head?_of_mem_normalizeExtensions htext
    refine ⟨?_, hhead⟩
    rintro rfl
    cases hhead
  · intro toml volume path extra overrides table fixed settings hdistinct hscan hchosen hload
    obtain ⟨table', hscan', hextensions⟩ := rel_extensions_of_loadSettings hload hdistinct
    obtain rfl := Except.ok.inj (hscan.symm.trans hscan')
    have hspelled := hextensions _ hchosen
    rw [asExtensions_texts] at hspelled
    exact isSupported_iff_of_extensions (Except.ok.inj hspelled).symm

/-- Scan settings with extensions in various spellings. -/
def extensionsText : List Char :=
  "[scan]\nextensions = [\"PY\", \" .txt \"]\n".toList

/-- Settings with these extensions, spelled alike. -/
def extensionsSettings : Settings where
  extensions := .list [.text ".py", .text ".txt"]

/-- They are loaded, and visit files with these suffixes. -/
theorem normalizeExtensions_canonical_loaded :
    loadScanTable Toml.package (configVolume (encodeUtf8 extensionsText)) configPath
      = .ok [("extensions", .list (["PY", " .txt "].map .text))] ∧
    chosen? [("extensions", .list (["PY", " .txt "].map .text))] [] "extensions"
      = some (.list (["PY", " .txt "].map .text)) ∧
    loadSettings Toml.package (configVolume (encodeUtf8 extensionsText)) configPath (.list []) []
      = .ok extensionsSettings ∧
    AreRespelled ["PY", " .txt "] ["py", " .txt "] ∧
    normalizeExtensions ["py", " .txt "] = normalizeExtensions ["PY", " .txt "] ∧
    ∀ name, ∃ supported, extensionsSettings.isSupported name = .ok supported ∧ (supported = true ↔
      ∃ extension ∈ ["PY", " .txt "],
        spelling extension = lowercase (Path.ofText name).suffix) := by
  have hload : loadConfig Toml.package (configVolume (encodeUtf8 extensionsText)) configPath
      = .ok [(scanTable, .table [("extensions", .list (["PY", " .txt "].map .text))])] :=
    loadConfig_configVolume (by decide +kernel) (by decide +kernel)
  have hscan : loadScanTable Toml.package (configVolume (encodeUtf8 extensionsText)) configPath
      = .ok [("extensions", .list (["PY", " .txt "].map .text))] := by
    rw [loadScanTable, hload]
    rfl
  have hspelled : ["PY", " .txt "].filterMap extensionSpelling? = [".py", ".txt"] := by
    decide +kernel
  have hnormal : normalizeExtensions ["PY", " .txt "] = [".py", ".txt"] := by
    rw [normalizeExtensions, hspelled, sortedDistinct, eraseDups_of_nodup (by decide),
      List.mergeSort_of_pairwise (by decide)]
  have hextensions : tableExtensions [("extensions", .list (["PY", " .txt "].map .text))]
      = .ok [("extensions", extensionsSettings.extensions)] := by
    show Except.ok [("extensions", Value.list ((normalizeExtensions ["PY", " .txt "]).map .text))]
      = _
    rw [hnormal]
    rfl
  have hsettings : loadSettings Toml.package (configVolume (encodeUtf8 extensionsText)) configPath
      (.list []) [] = .ok extensionsSettings :=
    loadSettings_eq_ok_iff.2 ⟨rfl, _, hscan, _,
      mergeFields_eq_ok_iff.2 ⟨[], [], _, [], ⟨rfl, rfl, hextensions, rfl⟩, rfl⟩,
      by decide +kernel⟩
  have hrespelled : AreRespelled ["PY", " .txt "] ["py", " .txt "] :=
    .respelled [] [" .txt "] (.recased (by decide))
  obtain ⟨-, -, -, hsame, hvisits⟩ := normalizeExtensions_canonical ["PY", " .txt "]
  exact ⟨hscan, rfl, hsettings, hrespelled, hsame _ hrespelled,
    hvisits _ _ _ _ [] _ _ _ List.nodup_nil hscan rfl hsettings⟩

end SourceOutline
