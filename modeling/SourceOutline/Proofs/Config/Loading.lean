import SourceOutline.Command.Run
import SourceOutline.Proofs.Config.Saving
import SourceOutline.Toml.Package

set_option autoImplicit false

/-! # Which configuration files are reported

Settings are loaded from whatever bytes a configuration file holds. A fault in it counts as one of
the configuration only if it is found where faults are given another wording: when the document is
malformed, when the scan settings are no table, or when a value is out of its range. A value of
another kind under `exclude` or `extensions` is met before that, and so is a text that cannot be
decoded. `loadSettings_reports_iff` tells for all bytes whether loading either succeeds or is
reported, and that it is just in these cases that a command ends as misused when loading fails. -/

namespace SourceOutline

open Toml

variable {toml : Library} {volume : Volume} {path : Path} {bytes : List UInt8}

/-! ## Reading the document -/

theorem exists?_of_readBytes (h : volume.readBytes path = .ok bytes) :
    volume.exists? path = .ok true := by
  obtain ⟨location, hlocate, -⟩ := bind_eq_ok_iff.1 h
  rw [Volume.exists?, hlocate]

/-- The fields of a configuration file that holds some bytes: those of the document that they stand
    for in UTF-8. -/
def fieldsOfBytes (toml : Library) (path : Path) (bytes : List UInt8) :
    Except LoadFault (List (String × Value)) := do
  let text ← (decodeUtf8 bytes).mapError (.read ∘ .decoding ∘ .undecodable)
  match toml.load (unifyBreaks text) with
  | .ok fields => return fields
  | .error .malformed => throw (.config (.invalidToml path.text))
  | .error fault => throw (.document fault)

/-- What is loaded from a file depends on its bytes alone. -/
theorem loadConfig_eq_fieldsOfBytes (toml : Library) (h : volume.readBytes path = .ok bytes) :
    loadConfig toml volume path = fieldsOfBytes toml path bytes := by
  simp only [loadConfig, exists?_of_readBytes h, readWith, h, utf8Decoder, fieldsOfBytes,
    mapError_ok, bind, Except.bind, if_true]
  cases decodeUtf8 bytes with
  | error fault => rfl
  | ok text => rfl

/-! ## Values that give names -/

/-- A value that has items: a list, a text or a table. -/
def Value.HasItems : Value → Prop
  | .list _ _ | .text _ | .table _ _ => True
  | _ => False

/-- A value all of whose items are texts. Those of a text and of a table always are. -/
def Value.HasTextItems : Value → Prop
  | .list items _ => ∀ item ∈ items, ∃ s, item = .text s
  | .text _ | .table _ _ => True
  | _ => False

theorem Value.items_isOk_iff (value : Value) : (∃ items, value.items = .ok items) ↔
    value.HasItems := by
  cases value <;> simp [Value.items, Value.HasItems]

theorem mapM_asText_isOk_iff (items : List Value) :
    (∃ texts, items.mapM Value.asText = .ok texts) ↔ ∀ item ∈ items, ∃ s, item = .text s := by
  induction items with
  | nil => simp [pure, Except.pure]
  | cons item rest ih =>
    rw [List.forall_mem_cons, ← ih, List.mapM_cons]
    constructor
    · rintro ⟨texts, htexts⟩
      obtain ⟨first, hfirst, hlater⟩ := bind_eq_ok_iff.1 htexts
      obtain ⟨later, hrest, -⟩ := bind_eq_ok_iff.1 hlater
      refine ⟨?_, later, hrest⟩
      cases item with
      | text s => exact ⟨s, rfl⟩
      | _ => cases hfirst
    · rintro ⟨⟨s, rfl⟩, texts, htexts⟩
      exact ⟨s :: texts, bind_eq_ok_iff.2 ⟨s, rfl, bind_eq_ok_iff.2 ⟨texts, htexts, rfl⟩⟩⟩

theorem Value.asExtensions_isOk_iff (value : Value) :
    (∃ extensions, value.asExtensions = .ok extensions) ↔ value.HasTextItems := by
  have hiff : (∃ extensions, value.asExtensions = .ok extensions) ↔
      ∃ items, value.items = .ok items ∧ ∀ item ∈ items, ∃ s, item = .text s := by
    constructor
    · rintro ⟨extensions, h⟩
      obtain ⟨items, hitems, hlater⟩ := bind_eq_ok_iff.1 h
      obtain ⟨texts, htexts, -⟩ := bind_eq_ok_iff.1 hlater
      exact ⟨items, hitems, (mapM_asText_isOk_iff items).1 ⟨texts, htexts⟩⟩
    · rintro ⟨items, hitems, hall⟩
      obtain ⟨texts, htexts⟩ := (mapM_asText_isOk_iff items).2 hall
      exact ⟨_, bind_eq_ok_iff.2 ⟨items, hitems, bind_eq_ok_iff.2 ⟨texts, htexts, rfl⟩⟩⟩
  rw [hiff]
  cases value with
  | table fields inline =>
    simp only [Value.items, Value.HasTextItems, Except.ok.injEq, exists_eq_left', iff_true]
    intro item hitem
    obtain ⟨field, -, rfl⟩ := List.mem_map.1 hitem
    exact ⟨field.1, rfl⟩
  | _ => simp [Value.items, Value.HasTextItems]

/-- The names to exclude have items, and all items of the extensions are texts, as far as a table
    gives them. -/
structure HasNameLists (table : List (String × Value)) : Prop where
  exclude : ∀ value, table.lookup "exclude" = some value → value.HasItems
  extensions : ∀ value, table.lookup "extensions" = some value → value.HasTextItems

theorem hasNameLists_nil : HasNameLists [] :=
  ⟨nofun, nofun⟩

theorem mergeFields_isOk_iff (table : List (String × Value)) (names : List Value) (fixed : Bool) :
    (∃ fields, mergeFields table (.list names fixed) [] = .ok fields) ↔ HasNameLists table := by
  constructor
  · rintro ⟨fields, h⟩
    obtain ⟨exclude, hexclude, h⟩ := bind_eq_ok_iff.1 h
    obtain ⟨further, -, h⟩ := bind_eq_ok_iff.1 h
    refine ⟨fun value hvalue => ?_, fun value hvalue => ?_⟩
    · rw [hvalue] at hexclude
      exact value.items_isOk_iff.1 ⟨exclude, hexclude⟩
    · rw [hvalue] at h
      obtain ⟨extensions, hextensions, -⟩ := bind_eq_ok_iff.1 h
      exact value.asExtensions_isOk_iff.1 ⟨_, hextensions⟩
  · rintro ⟨hexclude, hextensions⟩
    obtain ⟨exclude, hitems⟩ : ∃ items,
        ((table.lookup "exclude").getD (.list [])).items = .ok items := by
      cases hlookup : table.lookup "exclude" with
      | none => exact ⟨[], rfl⟩
      | some value => exact value.items_isOk_iff.2 (hexclude value hlookup)
    refine exists_congr (fun fields => bind_eq_ok_iff) |>.2 ?_
    cases hlookup : table.lookup "extensions" with
    | none => exact ⟨_, exclude, hitems, bind_eq_ok_iff.2 ⟨names, rfl, rfl⟩⟩
    | some value =>
      obtain ⟨extensions, h⟩ := value.asExtensions_isOk_iff.2 (hextensions value hlookup)
      exact ⟨_, exclude, hitems, bind_eq_ok_iff.2 ⟨names, rfl,
        bind_eq_ok_iff.2 ⟨_, h, rfl⟩⟩⟩

/-! ## What is reported -/

/-- Loading succeeds, or it is reported that the configuration cannot be used. -/
def IsAnswered {α : Type} (loaded : Except LoadFault α) : Prop :=
  (∃ a, loaded = .ok a) ∨ ∃ fault, loaded = .error (.config fault)

/-- Bytes that a configuration file can hold without a fault that goes unreported. They are text in
    UTF-8, and it is malformed, or it is a document in which the scan settings are no table or have
    lists of names. -/
def IsAccountable (toml : Library) (bytes : List UInt8) : Prop :=
  ∃ text, decodeUtf8 bytes = .ok text ∧
    (toml.load (unifyBreaks text) = .error .malformed ∨
      ∃ fields, toml.load (unifyBreaks text) = .ok fields ∧
        ∀ table inline, fields.lookup scanTable = some (.table table inline) → HasNameLists table)

theorem isAnswered_ofFields (fields : List (String × Value)) :
    IsAnswered ((Settings.ofFields fields).mapError
      (LoadFault.config ∘ ConfigFault.invalidSettings)) := by
  cases Settings.ofFields fields with
  | ok settings => exact .inl ⟨settings, rfl⟩
  | error fault => exact .inr ⟨_, rfl⟩

/-- Settings that a table and further names make are reported if the table has lists of names. -/
theorem isAnswered_mergeFields_iff (table : List (String × Value)) (names : List Value)
    (fixed : Bool) :
    IsAnswered (do
      let fields ← (mergeFields table (.list names fixed) []).mapError LoadFault.value
      (Settings.ofFields fields).mapError (LoadFault.config ∘ ConfigFault.invalidSettings)) ↔
      HasNameLists table := by
  rw [← mergeFields_isOk_iff table names fixed]
  cases mergeFields table (.list names fixed) [] with
  | ok fields =>
    simp only [mapError_ok, bind, Except.bind, Except.ok.injEq, exists_eq', iff_true]
    exact isAnswered_ofFields fields
  | error fault => simp [IsAnswered, mapError_error, bind, Except.bind]

/-- Settings from a configuration with some fields are reported unless its scan settings are a table
    without lists of names. -/
theorem isAnswered_loadSettings_of_fields {fields : List (String × Value)}
    (hload : loadConfig toml volume path = .ok fields) (names : List Value) (fixed : Bool) :
    IsAnswered (loadSettings toml volume path (.list names fixed) []) ↔
      ∀ table inline, fields.lookup scanTable = some (.table table inline) →
        HasNameLists table := by
  -- settings are made from the table that is loaded, as far as there is one
  have hstep : ∀ table, loadScanTable toml volume path = .ok table →
      (IsAnswered (loadSettings toml volume path (.list names fixed) []) ↔ HasNameLists table) := by
    intro table htable
    rw [← isAnswered_mergeFields_iff table names fixed, loadSettings, htable]
    rfl
  cases hlookup : fields.lookup scanTable with
  | none =>
    have htable : loadScanTable toml volume path = .ok [] := by
      simp only [loadScanTable, hload, hlookup, bind, Except.bind, pure, Except.pure]
    rw [hstep [] htable]
    refine ⟨fun _ table inline htable => ?_, fun _ => hasNameLists_nil⟩
    cases htable
  | some value =>
    cases value with
    | table table inline =>
      rw [hstep table (by
        simp only [loadScanTable, hload, hlookup, bind, Except.bind, pure, Except.pure])]
      constructor
      · rintro h _ _ ⟨⟩
        exact h
      · intro h
        exact h table inline rfl
    | _ =>
      have hnone : loadScanTable toml volume path = .error (.config .noTable) := by
        simp only [loadScanTable, hload, hlookup, bind, Except.bind]
        rfl
      have hsettings : loadSettings toml volume path (.list names fixed) []
          = .error (.config .noTable) := by
        rw [loadSettings, hnone]
        rfl
      rw [hsettings]
      refine ⟨fun _ table inline htable => ?_, fun _ => .inr ⟨_, rfl⟩⟩
      cases htable

theorem isAnswered_loadSettings_of_error {fault : LoadFault}
    (hload : loadConfig toml volume path = .error fault) (names : List Value) (fixed : Bool) :
    IsAnswered (loadSettings toml volume path (.list names fixed) []) ↔
      ∃ reported, fault = .config reported := by
  have hsettings : loadSettings toml volume path (.list names fixed) [] = .error fault := by
    simp only [loadSettings, loadScanTable, hload, bind, Except.bind]
    rfl
  simp [IsAnswered, hsettings]

/-- Settings from a configuration file are reported exactly if it holds accountable bytes. -/
theorem isAnswered_loadSettings_iff (toml : Library) (hread : volume.readBytes path = .ok bytes)
    (names : List Value) (fixed : Bool) :
    IsAnswered (loadSettings toml volume path (.list names fixed) []) ↔
      IsAccountable toml bytes := by
  have hload := loadConfig_eq_fieldsOfBytes toml hread
  cases hdecode : decodeUtf8 bytes with
  | error fault =>
    rw [fieldsOfBytes, hdecode] at hload
    rw [isAnswered_loadSettings_of_error hload]
    simp [IsAccountable, hdecode]
  | ok text =>
    cases hdocument : toml.load (unifyBreaks text) with
    | ok fields =>
      simp only [fieldsOfBytes, hdecode, mapError_ok, bind, Except.bind, hdocument, pure,
        Except.pure] at hload
      rw [isAnswered_loadSettings_of_fields hload]
      simp [IsAccountable, hdecode, hdocument]
    | error fault =>
      simp only [fieldsOfBytes, hdecode, mapError_ok, bind, Except.bind, hdocument] at hload
      simp only [IsAccountable, hdecode, hdocument, Except.ok.injEq, exists_eq_left']
      cases fault with
      | malformed =>
        rw [isAnswered_loadSettings_of_error hload]
        simp
      | _ =>
        rw [isAnswered_loadSettings_of_error hload]
        simp

/-- Loading settings from a configuration file succeeds or is reported exactly if the file holds
    accountable bytes. When loading fails, it is just with these that a command counts as
    misused. -/
theorem loadSettings_reports_iff (toml : Library) (hread : volume.readBytes path = .ok bytes)
    (names : List Value) (fixed : Bool) :
    (((∃ settings, loadSettings toml volume path (.list names fixed) [] = .ok settings) ∨
        ∃ fault, loadSettings toml volume path (.list names fixed) [] = .error (.config fault)) ↔
      IsAccountable toml bytes) ∧
    ∀ fault, loadSettings toml volume path (.list names fixed) [] = .error fault → ∀ next,
      (Command.withSettings volume (loadSettings toml volume path (.list names fixed) []) next
        = (volume, .ok Command.misuse) ↔ IsAccountable toml bytes) := by
  have hreported := isAnswered_loadSettings_iff toml hread names fixed
  refine ⟨hreported, fun fault hfault next => ?_⟩
  rw [← hreported, hfault]
  cases fault with
  | config fault => exact ⟨fun _ => .inr ⟨fault, rfl⟩, fun _ => rfl⟩
  | _ => simp [Command.withSettings, IsAnswered]

/-- Scan settings with a tab width that is too small. -/
def narrowText : List Char :=
  "[scan]\ntab_width = 0\n".toList

/-- Loading them is reported just if their text is accountable. -/
theorem loadSettings_reports_narrowText :
    (configVolume (encodeUtf8 narrowText)).readBytes configPath = .ok (encodeUtf8 narrowText) ∧
    (((∃ settings, loadSettings package (configVolume (encodeUtf8 narrowText)) configPath
          (.list [] true) [] = .ok settings) ∨
        ∃ fault, loadSettings package (configVolume (encodeUtf8 narrowText)) configPath
          (.list [] true) [] = .error (.config fault)) ↔
      IsAccountable package (encodeUtf8 narrowText)) ∧
    ∀ fault, loadSettings package (configVolume (encodeUtf8 narrowText)) configPath
        (.list [] true) [] = .error fault → ∀ next,
      (Command.withSettings (configVolume (encodeUtf8 narrowText))
          (loadSettings package (configVolume (encodeUtf8 narrowText)) configPath
            (.list [] true) []) next
        = (configVolume (encodeUtf8 narrowText), .ok Command.misuse) ↔
          IsAccountable package (encodeUtf8 narrowText)) :=
  ⟨readBytes_configVolume _, loadSettings_reports_iff package (readBytes_configVolume _) [] true⟩

/-- Scan settings that exclude a number. -/
def numberExcludedText : List Char :=
  "[scan]\nexclude = 5\n".toList

/-- Loading them has a fault that is not reported, and does not count as misuse. -/
theorem loadSettings_numberExcludedText :
    (configVolume (encodeUtf8 numberExcludedText)).readBytes configPath
      = .ok (encodeUtf8 numberExcludedText) ∧
    loadSettings package (configVolume (encodeUtf8 numberExcludedText)) configPath
      (.list [] true) [] = .error (.value (.noItems "int")) ∧
    ∀ next, Command.withSettings (configVolume (encodeUtf8 numberExcludedText))
        (loadSettings package (configVolume (encodeUtf8 numberExcludedText)) configPath
          (.list [] true) []) next
      = (configVolume (encodeUtf8 numberExcludedText),
        .error (.load (.value (.noItems "int")))) := by
  have hload : loadConfig package (configVolume (encodeUtf8 numberExcludedText)) configPath
      = .ok [(scanTable, .table [("exclude", .int 5)])] :=
    loadConfig_configVolume (by decide +kernel) (by decide +kernel)
  have hsettings : loadSettings package (configVolume (encodeUtf8 numberExcludedText)) configPath
      (.list [] true) [] = .error (.value (.noItems "int")) := by
    rw [loadSettings, loadScanTable, hload]
    rfl
  refine ⟨readBytes_configVolume _, hsettings, fun next => ?_⟩
  rw [hsettings]
  rfl

end SourceOutline
