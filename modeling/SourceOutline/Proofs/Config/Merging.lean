import SourceOutline.Proofs.Config.Saving
import SourceOutline.Proofs.Config.Sources
import SourceOutline.Toml.Package

set_option autoImplicit false

/-! # Merging settings

Settings are loaded from a configuration file with further names to exclude and with overrides. With
values of the expected types and ranges they are always made: the names that are excluded are those
of the three lists, each at its first occurrence, and every other setting is that of an override, or
else that of the file, or else the default (`loadSettings_merges`). -/

namespace SourceOutline

variable {toml : Toml.Library} {volume : Volume} {path : Path} {settings : Settings}
variable {fields table overrides overriding : List (String × Value)} {extra : Value}

/-! ## Loading -/

/-- Settings are loaded if the overrides are sound and the sources can be merged into named values
    that make the settings. -/
theorem loadSettings_eq_ok_iff : loadSettings toml volume path extra overrides = .ok settings ↔
    checkOverrides overrides = .ok () ∧ ∃ table, loadScanTable toml volume path = .ok table ∧
      ∃ fields, mergeFields table extra overrides = .ok fields ∧
        Settings.ofFields fields = .ok settings := by
  simp only [loadSettings, bind_eq_ok_iff, mapError_eq_ok_iff]
  exact ⟨fun ⟨⟨⟩, h⟩ => h, fun h => ⟨(), h⟩⟩

/-- The extensions of settings that are loaded are those of an override, or else those of the
    table, as they are merged. -/
theorem rel_extensions_of_loadSettings
    (h : loadSettings toml volume path extra overrides = .ok settings)
    (hdistinct : (overrides.map Prod.fst).Nodup) :
    ∃ table, loadScanTable toml volume path = .ok table ∧
      ∀ value, chosen? table overrides "extensions" = some value →
        value.asExtensions = .ok settings.extensions := by
  obtain ⟨-, table, htable, fields, hfields, hsettings⟩ := loadSettings_eq_ok_iff.1 h
  obtain ⟨listed, further, extensions, overriding, hmerges, rfl⟩ := mergeFields_eq_ok_iff.1 hfields
  refine ⟨table, htable, fun value hvalue => ?_⟩
  have hgiven := (Settings.ofFields_eq_ok_iff.1 hsettings).2.extensions
  have hrel := hmerges.rel_lastField?_extensions hdistinct
    (.list (appendNew (defaultExcludes.map .text) (listed ++ further)))
  rw [hvalue] at hrel
  generalize lastField? _ "extensions" = merged at hrel hgiven
  cases hrel with
  | some hmerged => rwa [hgiven]

/-! ## Names to exclude -/

theorem any_same_text (names : List String) (name : String) :
    (names.map Value.text).any (·.same (.text name)) = decide (name ∈ names) := by
  rw [List.any_map, Bool.eq_iff_iff]
  simp [Value.same]

theorem eraseDups_of_nodup {α : Type} [BEq α] [LawfulBEq α] {items : List α}
    (h : items.Nodup) : items.eraseDups = items := by
  induction items with
  | nil => rfl
  | cons item rest ih =>
    obtain ⟨hnew, hrest⟩ := List.nodup_cons.1 h
    have hkept : rest.filter (fun other => !other == item) = rest := by
      refine List.filter_eq_self.2 fun other hother => ?_
      have hne : other ≠ item := fun heq => hnew (heq ▸ hother)
      simp [hne]
    rw [List.eraseDups_cons, hkept, ih hrest]

/-- To append the names that are not there yet leaves the old ones as they are; the new ones come
    after them, each at its first occurrence. -/
theorem appendNew_eq (known names : List String) : appendNew (known.map .text) (names.map .text)
    = (known ++ (names.removeAll known).eraseDups).map .text := by
  induction names generalizing known with
  | nil => rw [List.nil_removeAll, List.eraseDups_nil, List.append_nil, List.map_nil, appendNew]
  | cons name rest ih =>
    rw [List.map_cons, appendNew, any_same_text, List.cons_removeAll]
    by_cases hknown : name ∈ known
    · rw [decide_eq_true hknown, if_pos rfl, ih, List.contains_iff_mem.2 hknown, if_neg (by decide)]
    · -- what comes later is new if it is neither known nor the same name
      have hlater : rest.removeAll (known ++ [name])
          = (rest.removeAll known).filter (!· == name) := by
        rw [List.removeAll, List.removeAll, List.filter_filter]
        refine List.filter_congr fun other _ => ?_
        rw [Bool.eq_iff_iff]
        simp [and_comm]
      have hnew : known.contains name = false := by simp [hknown]
      have hstep := ih (known ++ [name])
      rw [List.map_append, List.append_assoc, hlater] at hstep
      rw [decide_eq_false hknown, if_neg Bool.false_ne_true, hnew, if_pos rfl, List.eraseDups_cons]
      exact hstep

/-- If the known names are distinct, each name is kept at its first occurrence. -/
theorem appendNew_texts {known : List String} (h : known.Nodup) (names : List String) :
    appendNew (known.map .text) (names.map .text) = (known ++ names).eraseDups.map .text := by
  rw [appendNew_eq, List.eraseDups_append, eraseDups_of_nodup h]

theorem checkSimple_texts (names : List String) : checkSimple (names.map .text) = .ok () := by
  induction names with
  | nil => rfl
  | cons name rest ih => exact ih

/-- A name is left out of a scan if it starts with a dot or is among those to exclude. -/
theorem isExcluded_iff_of_exclude {names : List String}
    (h : settings.exclude = names.map .text) (name : String) :
    settings.isExcluded name = true ↔ name.toList.head? = some '.' ∨ name ∈ names := by
  rw [Settings.isExcluded, h, List.any_map, Bool.or_eq_true, beq_iff_eq]
  simp [Value.isText]

/-! ## Values of the expected types -/

/-- A value that a setting can have: of the expected type, and in the range of the setting. -/
structure IsSettingValue (name : String) (value : Value) : Prop where
  names : name = "exclude" ∨ name = "extensions" →
    ∃ (names : List String) (fixed : Bool), value = .list (names.map .text) fixed
  snippetLines : name = "snippet_lines" → ∃ n : Int, 0 ≤ n ∧ value = .int n
  tabWidth : name = "tab_width" → ∃ n : Int, 1 ≤ n ∧ value = .int n
  encoding : name = "encoding" → ∃ text, value = .text text
  followLinks : name = "follow_symlinks" → ∃ follow, value = .bool follow

/-- The names that a value lists. -/
def Value.names : Value → List String
  | .list items _ => items.filterMap fun
    | .text name => some name
    | _ => none
  | _ => []

theorem Value.names_list (names : List String) (fixed : Bool) :
    (Value.list (names.map .text) fixed).names = names := by
  rw [Value.names, List.filterMap_map]
  exact List.filterMap_some

/-- The names that a table lists under `exclude`. -/
def listedNames (table : List (String × Value)) : List String :=
  ((table.lookup "exclude").getD (.list [])).names

/-- The value that the texts in a value give when they are extensions. -/
def Value.spelled (value : Value) : Value :=
  .list ((normalizeExtensions value.names).map .text)

theorem asExtensions_texts (names : List String) (fixed : Bool) :
    (Value.list (names.map .text) fixed).asExtensions
      = .ok (.list ((normalizeExtensions names).map .text)) := by
  have hmap : (names.map Value.text).mapM Value.asText = .ok names := by
    induction names with
    | nil => rfl
    | cons name rest ih =>
      rw [List.map_cons, List.mapM_cons]
      exact bind_eq_ok_iff.2 ⟨name, rfl, bind_eq_ok_iff.2 ⟨rest, ih, rfl⟩⟩
  exact bind_eq_ok_iff.2 ⟨_, rfl, bind_eq_ok_iff.2 ⟨names, hmap, rfl⟩⟩

/-- What a table, further names to exclude and overrides are merged into. -/
structure Settings.MergedFrom (table : List (String × Value)) (extra : List String)
    (overrides : List (String × Value)) (settings : Settings) : Prop where
  exclude : settings.exclude
    = (defaultExcludes ++ listedNames table ++ extra).eraseDups.map .text
  extensions : settings.extensions
    = ((chosen? table overrides "extensions").map Value.spelled).getD ({} : Settings).extensions
  snippetLines : settings.snippetLines.toValue
    = (chosen? table overrides "snippet_lines").getD ({} : Settings).snippetLines.toValue
  tabWidth : settings.tabWidth.toValue
    = (chosen? table overrides "tab_width").getD ({} : Settings).tabWidth.toValue
  encoding : settings.encoding
    = (chosen? table overrides "encoding").getD ({} : Settings).encoding
  followLinks : settings.followLinks
    = (chosen? table overrides "follow_symlinks").getD ({} : Settings).followLinks

/-! ## Making settings of sources -/

section

variable {names : List String} {given : String → Option Value}

theorem isSettingValue_of_chosen? {name : String} {value : Value}
    (htable : ∀ value, table.lookup name = some value → IsSettingValue name value)
    (hoverrides : ∀ value, (name, value) ∈ overrides → value = .null ∨ IsSettingValue name value)
    (h : chosen? table overrides name = some value) : IsSettingValue name value := by
  unfold chosen? override? at h
  cases hlookup : overrides.lookup name with
  | none =>
    rw [hlookup] at h
    exact htable value h
  | some given =>
    rw [hlookup] at h
    have hgiven := hoverrides given (mem_fields_of_lookup hlookup)
    cases given with
    | null => exact htable value h
    | _ =>
      cases h
      exact hgiven.resolve_left nofun

theorem asQuantity_int {field : String} {least n : Int} (h : least ≤ n) :
    (Value.int n).asQuantity field least = .ok (.whole n) := by
  have hnot : ¬ n < least := by omega
  simp [Value.asQuantity, Quantity.ofValue?, Quantity.isBelow, hnot]

theorem exists_quantity {given : Option Value} (base : Quantity) (field : String) {least : Int}
    (h : ∀ value, given = some value → ∃ n : Int, least ≤ n ∧ value = .int n) :
    ∃ quantity, given.elim (.ok base) (Value.asQuantity field least) = .ok quantity ∧
      quantity.toValue = given.getD base.toValue := by
  cases given with
  | none => exact ⟨base, rfl, rfl⟩
  | some value =>
    obtain ⟨n, hn, rfl⟩ := h value rfl
    exact ⟨.whole n, asQuantity_int hn, rfl⟩

/-- The names that may be overridden. -/
def overrideNames : List String :=
  ["extensions", "snippet_lines", "tab_width", "encoding", "follow_symlinks"]

theorem checkOverrides_eq_ok (h : ∀ name ∈ overrides.map Prod.fst, name ∈ overrideNames) :
    checkOverrides overrides = .ok () := by
  have hfind : overrides.find? (fun field => sourceNames.contains field.1) = none := by
    refine List.find?_eq_none.2 fun field hfield => ?_
    have hname := h _ (List.mem_map_of_mem hfield)
    generalize field.1 = name at hname ⊢
    revert name
    decide
  have hlookup : overrides.lookup "cls" = none := by
    refine List.lookup_eq_none_iff.2 fun field hfield => bne_iff_ne.2 fun heq => ?_
    have hname := h _ (List.mem_map_of_mem hfield)
    rw [← heq] at hname
    exact absurd hname (by decide)
  rw [checkOverrides, hfind, hlookup]
  rfl

/-- Texts that are chosen as extensions are merged spelled alike. -/
theorem MergesAs.lastField?_spelled {listed further : List Value}
    {extensions : List (String × Value)}
    (h : MergesAs table extra overrides listed further extensions overriding)
    (hdistinct : (overrides.map Prod.fst).Nodup) (exclude : Value)
    (hchosen : ∀ value, chosen? table overrides "extensions" = some value →
      IsSettingValue "extensions" value) :
    lastField? ((("exclude", exclude) :: extensions ++ plainFields table) ++ overriding)
      "extensions" = (chosen? table overrides "extensions").map Value.spelled := by
  have hrel := h.rel_lastField?_extensions hdistinct exclude
  generalize chosen? table overrides "extensions" = chosen,
    lastField? _ "extensions" = merged at hrel hchosen ⊢
  cases hrel with
  | none => rfl
  | some hmerged =>
    obtain ⟨names, fixed, rfl⟩ := (hchosen _ rfl).names (.inr rfl)
    rw [asExtensions_texts] at hmerged
    rw [Option.map_some, Value.spelled, Value.names_list, Except.ok.inj hmerged]

/-- Sources with values of the expected types and ranges can be merged. -/
theorem exists_mergesAs (extraNames : List String) (fixed : Bool)
    (htable : ∀ name value, table.lookup name = some value → IsSettingValue name value)
    (hoverrides : ∀ name value, (name, value) ∈ overrides →
      value = .null ∨ IsSettingValue name value) :
    ∃ extensions overriding, MergesAs table (.list (extraNames.map .text) fixed) overrides
      ((listedNames table).map .text) (extraNames.map .text) extensions overriding := by
  have hspelled : ∀ value, IsSettingValue "extensions" value →
      ∃ extensions, value.asExtensions = .ok extensions := by
    intro value hvalue
    obtain ⟨names, fixed, rfl⟩ := hvalue.names (.inr rfl)
    exact ⟨_, asExtensions_texts names fixed⟩
  obtain ⟨overriding, hoverriding⟩ := overrideFields_isOk fun value hmem hnull =>
    hspelled value ((hoverrides _ value hmem).resolve_left hnull)
  obtain ⟨extensions, hextensions⟩ : ∃ extensions, tableExtensions table = .ok extensions := by
    unfold tableExtensions
    cases hlookup : table.lookup "extensions" with
    | none => exact ⟨[], rfl⟩
    | some value =>
      obtain ⟨merged, hmerged⟩ := hspelled value (htable _ value hlookup)
      exact ⟨_, bind_eq_ok_iff.2 ⟨merged, hmerged, rfl⟩⟩
  have hlisted : ((table.lookup "exclude").getD (.list [])).items
      = .ok ((listedNames table).map .text) := by
    unfold listedNames
    cases hlookup : table.lookup "exclude" with
    | none => rfl
    | some value =>
      obtain ⟨names, fixed, rfl⟩ := (htable _ value hlookup).names (.inl rfl)
      rw [Option.getD_some, Value.names_list]
      rfl
  exact ⟨extensions, overriding, hlisted, rfl, hextensions, hoverriding⟩

/-- Settings are told by names to exclude and by numbers that are not too small. -/
theorem Settings.exists_isGiven (hexclude : given "exclude" = some (.list (names.map .text)))
    (hsnippet : ∀ value, given "snippet_lines" = some value → ∃ n : Int, 0 ≤ n ∧ value = .int n)
    (htab : ∀ value, given "tab_width" = some value → ∃ n : Int, 1 ≤ n ∧ value = .int n) :
    ∃ settings : Settings, settings.IsGiven given ∧ settings.exclude = names.map .text ∧
      settings.snippetLines.toValue
        = (given "snippet_lines").getD ({} : Settings).snippetLines.toValue ∧
      settings.tabWidth.toValue = (given "tab_width").getD ({} : Settings).tabWidth.toValue := by
  obtain ⟨snippetLines, hlines, hlinesValue⟩ :=
    exists_quantity ({} : Settings).snippetLines "snippet_lines" hsnippet
  obtain ⟨tabWidth, hwidth, hwidthValue⟩ :=
    exists_quantity ({} : Settings).tabWidth "tab_width" htab
  refine ⟨{ exclude := names.map .text, snippetLines, tabWidth,
            extensions := (given "extensions").getD ({} : Settings).extensions,
            encoding := (given "encoding").getD ({} : Settings).encoding,
            followLinks := (given "follow_symlinks").getD ({} : Settings).followLinks },
    ⟨hlines, hwidth, ?_, checkSimple_texts names, rfl, rfl, rfl⟩, rfl, hlinesValue, hwidthValue⟩
  rw [hexclude]
  rfl

/-- With values of the expected types and ranges in the table of scan settings and in the overrides,
    settings are loaded. The names to exclude are the default ones, those of the table and the
    further ones, each at its first occurrence; every other setting is that of an override, or else
    that of the table, or else the default. So a name is left out if it starts with a dot or is in
    one of the three lists. -/
theorem loadSettings_merges (hscan : loadScanTable toml volume path = .ok table)
    (htable : ∀ name value, table.lookup name = some value → IsSettingValue name value)
    (extraNames : List String) (fixed : Bool) (hdistinct : (overrides.map Prod.fst).Nodup)
    (hnames : ∀ name ∈ overrides.map Prod.fst, name ∈ overrideNames)
    (hoverrides : ∀ name value, (name, value) ∈ overrides →
      value = .null ∨ IsSettingValue name value) :
    ∃ settings,
      loadSettings toml volume path (.list (extraNames.map .text) fixed) overrides = .ok settings ∧
      settings.MergedFrom table extraNames overrides ∧
      ∀ name, settings.isExcluded name = true ↔ name.toList.head? = some '.' ∨
        name ∈ defaultExcludes ∨ name ∈ listedNames table ∨ name ∈ extraNames := by
  obtain ⟨extensions, overriding, hmerges⟩ :=
    exists_mergesAs extraNames fixed htable hoverrides
  have hexclude : appendNew (defaultExcludes.map .text)
      ((listedNames table).map .text ++ extraNames.map .text)
        = (defaultExcludes ++ listedNames table ++ extraNames).eraseDups.map .text := by
    rw [← List.map_append, appendNew_texts (by decide), ← List.append_assoc]
  have hfields := mergeFields_eq_ok_iff.2 ⟨_, _, _, _, hmerges, rfl⟩
  rw [hexclude] at hfields
  generalize hall : (defaultExcludes ++ listedNames table ++ extraNames).eraseDups = names
    at hfields
  have hchosen : ∀ name value, chosen? table overrides name = some value →
      IsSettingValue name value := fun name _ => isSettingValue_of_chosen?
    (htable name) (fun value => hoverrides name value)
  -- the last value under each name is the one that is chosen
  have hplain : ∀ name ∈ plainNames, lastField? ((("exclude", .list (names.map .text))
      :: extensions ++ plainFields table) ++ overriding) name = chosen? table overrides name :=
    fun name hname => hmerges.lastField?_plain hdistinct _ hname
  have hgivenExclude := hmerges.lastField?_exclude hdistinct (.list (names.map .text))
    fun hmem => absurd (hnames _ hmem) (by decide)
  have hgivenExtensions := hmerges.lastField?_spelled hdistinct (.list (names.map .text))
    (hchosen "extensions")
  have hstray : strayField? ((("exclude", .list (names.map .text)) :: extensions
      ++ plainFields table) ++ overriding) = none := by
    refine strayField?_eq_none fun name hname => ?_
    rw [List.map_append, List.mem_append] at hname
    rcases hname with hfirst | hlater
    · exact (hmerges.sublist_names _).subset hfirst
    · have hname := hnames name ((sublist_of_overrideFields hmerges.overriding).subset hlater)
      exact List.mem_cons_of_mem _ hname
  obtain ⟨settings, hgiven, hnamesOf, hlines, hwidth⟩ :=
    Settings.exists_isGiven hgivenExclude
      (fun value hvalue => (hchosen "snippet_lines" value
        ((hplain _ (by decide)).symm.trans hvalue)).snippetLines rfl)
      (fun value hvalue => (hchosen "tab_width" value
        ((hplain _ (by decide)).symm.trans hvalue)).tabWidth rfl)
  have hsettings := Settings.ofFields_eq_ok_iff.2 ⟨hstray, hgiven⟩
  refine ⟨settings, loadSettings_eq_ok_iff.2 ⟨checkOverrides_eq_ok hnames, table, hscan, _, hfields,
    hsettings⟩, ⟨?_, ?_, ?_, ?_, ?_, ?_⟩, fun name => ?_⟩
  · rw [hnamesOf, hall]
  · rw [hgiven.extensions, hgivenExtensions]
  · rw [hlines, hplain _ (by decide)]
  · rw [hwidth, hplain _ (by decide)]
  · rw [hgiven.encoding, hplain _ (by decide)]
  · rw [hgiven.followLinks, hplain _ (by decide)]
  · rw [isExcluded_iff_of_exclude hnamesOf, ← hall, List.mem_eraseDups, List.mem_append,
      List.mem_append, or_assoc]

/-- Scan settings with names to exclude, one of them twice and one a default, and with a number of
    lines. -/
def listedText : List Char :=
  "[scan]\nexclude = [\"build\", \"env\", \"build\"]\nsnippet_lines = 3\n".toList

/-- What is read of that text. -/
def listedTable : List (String × Value) :=
  [("exclude", .list [.text "build", .text "env", .text "build"]), ("snippet_lines", .int 3)]

/-- Overrides with extensions and with a missing tab width. -/
def spelledOverrides : List (String × Value) :=
  [("extensions", .list [.text "PY", .text " .txt "]), ("tab_width", .null)]

/-- The table, more names and the overrides are merged. -/
theorem loadSettings_merges_listed :
    loadScanTable Toml.package (configVolume (encodeUtf8 listedText)) configPath = .ok listedTable ∧
    (∀ name value, listedTable.lookup name = some value → IsSettingValue name value) ∧
    (spelledOverrides.map Prod.fst).Nodup ∧
    (∀ name ∈ spelledOverrides.map Prod.fst, name ∈ overrideNames) ∧
    (∀ name value, (name, value) ∈ spelledOverrides →
      value = .null ∨ IsSettingValue name value) ∧
    ∃ settings,
      loadSettings Toml.package (configVolume (encodeUtf8 listedText)) configPath
        (.list (["dist", "build"].map .text) true) spelledOverrides = .ok settings ∧
      settings.MergedFrom listedTable ["dist", "build"] spelledOverrides ∧
      ∀ name, settings.isExcluded name = true ↔ name.toList.head? = some '.' ∨
        name ∈ defaultExcludes ∨ name ∈ listedNames listedTable ∨ name ∈ ["dist", "build"] := by
  have hload : loadConfig Toml.package (configVolume (encodeUtf8 listedText)) configPath
      = .ok [(scanTable, .table listedTable)] :=
    loadConfig_configVolume (by decide +kernel) (by decide +kernel)
  have hscan : loadScanTable Toml.package (configVolume (encodeUtf8 listedText)) configPath
      = .ok listedTable := by
    rw [loadScanTable, hload]
    rfl
  have hnamesValue : ∀ (name : String) (names : List String),
      name = "exclude" ∨ name = "extensions" → IsSettingValue name (.list (names.map .text)) := by
    intro name names hname
    refine ⟨fun _ => ⟨names, false, rfl⟩, ?_, ?_, ?_, ?_⟩ <;>
      rcases hname with rfl | rfl <;> exact fun heq => absurd heq (by decide)
  have htable : ∀ name value, listedTable.lookup name = some value →
      IsSettingValue name value := by
    intro name value hlookup
    have hmem := mem_fields_of_lookup hlookup
    simp only [listedTable, List.mem_cons, List.not_mem_nil, or_false, Prod.mk.injEq] at hmem
    rcases hmem with ⟨rfl, rfl⟩ | ⟨rfl, rfl⟩
    · exact hnamesValue _ ["build", "env", "build"] (.inl rfl)
    · refine ⟨?_, fun _ => ⟨3, by decide, rfl⟩, ?_, ?_, ?_⟩ <;>
        exact fun heq => absurd heq (by decide)
  have hoverrides : ∀ name value, (name, value) ∈ spelledOverrides →
      value = .null ∨ IsSettingValue name value := by
    intro name value hmem
    simp only [spelledOverrides, List.mem_cons, List.not_mem_nil, or_false, Prod.mk.injEq] at hmem
    rcases hmem with ⟨rfl, rfl⟩ | ⟨rfl, rfl⟩
    · exact .inr (hnamesValue _ ["PY", " .txt "] (.inr rfl))
    · exact .inl rfl
  have hdistinct : (spelledOverrides.map Prod.fst).Nodup := by decide
  have hnames : ∀ name ∈ spelledOverrides.map Prod.fst, name ∈ overrideNames := by decide
  exact ⟨hscan, htable, hdistinct, hnames, hoverrides,
    loadSettings_merges hscan htable ["dist", "build"] true hdistinct hnames hoverrides⟩

end

end SourceOutline
