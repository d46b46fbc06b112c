import Mathlib.Data.Option.Basic
import SourceOutline.Config.Store
import SourceOutline.Proofs.Text.Utf8
import SourceOutline.Proofs.Toml.Plain
import SourceOutline.Proofs.Toml.RoundTrip
import SourceOutline.Proofs.Volume.Writing

set_option autoImplicit false

/-! # Saving keeps what it does not change

To save scan settings, a whole configuration file is read, the settings are merged into one of its
tables, and all of it is written anew. What is read afterwards has the same values under all other
keys, and in the table of scan settings the new values before the old ones
(`loadConfig_of_saveScanTable`). This holds for all values of the kinds that settings have, nested
to any depth, and under all keys of printable characters, with every TOML library that keeps to what
is documented. -/

namespace SourceOutline

/-! ## Reading what was written -/

theorem unifyBreaks_of_notMem {text : List Char} (h : '\r' ∉ text) : unifyBreaks text = text := by
  induction text with
  | nil => rfl
  | cons c rest ih =>
    obtain ⟨hc, hrest⟩ := not_or.1 (mt List.mem_cons.2 h)
    rw [unifyBreaks, ih hrest]
    · exact fun _ heq => absurd heq.symm hc
    · exact fun heq => absurd heq.symm hc

theorem loadConfig_of_readBytes {toml : Toml.Library} {volume : Volume} {path : Path}
    {text : List Char} {fields : List (String × Value)} (hexists : volume.exists? path = .ok true)
    (hbytes : volume.readBytes path = .ok (encodeUtf8 text)) (hreturn : '\r' ∉ text)
    (hload : toml.load text = .ok fields) : loadConfig toml volume path = .ok fields := by
  have htext : readWith (.ok utf8Decoder) volume path = .ok text := by
    simp only [readWith, hbytes, utf8Decoder, decodeUtf8_encodeUtf8, mapError_ok, bind, Except.bind,
      pure, Except.pure, unifyBreaks_of_notMem hreturn]
  simp only [loadConfig, hexists, htext, hload, mapError_ok, bind, Except.bind, pure, Except.pure,
    if_true]

/-! ## Merging -/

/-- A table with the values of others set one after another. -/
def updateFields (fields values : List (String × Value)) : List (String × Value) :=
  values.foldl (fun fields (key, value) => Value.setField fields key value) fields

theorem lookup_updateFields {values : List (String × Value)} (h : (values.map Prod.fst).Nodup)
    (fields : List (String × Value)) (key : String) :
    (updateFields fields values).lookup key = (values.lookup key).or (fields.lookup key) := by
  induction values generalizing fields with
  | nil => rfl
  | cons field rest ih =>
    obtain ⟨k, v⟩ := field
    obtain ⟨hnew, hrest⟩ := List.nodup_cons.1 h
    have hstep : updateFields fields ((k, v) :: rest)
        = updateFields (Value.setField fields k v) rest := rfl
    rw [hstep, ih hrest, Value.lookup_setField, List.lookup_cons]
    by_cases hkey : key = k
    · subst hkey
      have hnone : rest.lookup key = none := by
        refine List.lookup_eq_none_iff.2 fun field hfield => ?_
        exact bne_iff_ne.2 fun heq => hnew (List.mem_map.2 ⟨field, hfield, heq.symm⟩)
      rw [hnone, if_pos rfl, beq_self_eq_true]
      rfl
    · rw [if_neg hkey, beq_eq_false_iff_ne.2 hkey]

namespace Pairs

theorem set_ofFields (fields : List (String × Value)) (key : String) (value : Value) :
    (ofFields fields).set (.text key) value = ofFields (Value.setField fields key value) := by
  induction fields with
  | nil => rfl
  | cons first rest ih =>
    obtain ⟨k, v⟩ := first
    rw [Value.setField, ofFields, List.map_cons, Pairs.set, ← ofFields]
    by_cases hk : k = key
    · rw [if_pos (by simp [Value.same, hk]), if_pos hk]
      rfl
    · rw [if_neg (by simp [Value.same, hk]), if_neg hk, ih]
      rfl

theorem foldl_set_ofFields (fields values : List (String × Value)) :
    values.foldl (fun pairs (key, value) => Pairs.set (.text key) value pairs) (ofFields fields)
      = ofFields (updateFields fields values) := by
  induction values generalizing fields with
  | nil => rfl
  | cons first rest ih =>
    rw [List.foldl_cons]
    simp only [set_ofFields]
    exact ih _

end Pairs

open Toml

theorem isPlainTable_updateFields {fields values : List (String × Value)} (h : IsPlainTable fields)
    (hvalues : IsPlainTable values) : IsPlainTable (updateFields fields values) := by
  induction values generalizing fields with
  | nil => exact h
  | cons first rest ih =>
    exact ih (h.setField (hvalues.plainKey List.mem_cons_self)
      (hvalues.plainValue List.mem_cons_self)) hvalues.of_cons

/-- A plain configuration is plain with other values merged into its table of scan settings. -/
theorem isPlainTable_merged {fields old values : List (String × Value)}
    (hfields : IsPlainTable fields)
    (hold : IsPlainTable old) (hvalues : IsPlainTable values) :
    IsPlainTable (Value.setField fields scanTable (.table (updateFields old values))) :=
  hfields.setField (by decide +kernel) (.table (isPlainTable_updateFields hold hvalues))

/-! ## Saving -/

/-- The table of scan settings that is loaded is that of the configuration, or it is empty and there
    is none. -/
theorem lookup_of_loadScanTable {toml : Library} {volume : Volume} {path : Path}
    {fields old : List (String × Value)} (hload : loadConfig toml volume path = .ok fields)
    (hscan : loadScanTable toml volume path = .ok old) :
    fields.lookup scanTable = none ∧ old = [] ∨
      ∃ inline, fields.lookup scanTable = some (.table old inline) := by
  simp only [loadScanTable, hload, bind, Except.bind] at hscan
  split at hscan
  case h_1 hnone =>
    cases hscan
    exact .inl ⟨hnone, rfl⟩
  case h_2 hsome =>
    cases hscan
    exact .inr ⟨_, hsome⟩
  case h_3 => cases hscan

/-- What is merged is the configuration with its table of scan settings updated. -/
theorem mergeIntoScanTable_eq {fields old : List (String × Value)}
    (h : fields.lookup scanTable = none ∧ old = [] ∨
      ∃ inline, fields.lookup scanTable = some (.table old inline))
    (values : List (String × Value)) :
    mergeIntoScanTable fields values = .ok
      { fields := Value.setField fields scanTable (.table (updateFields old values))
        pairs := Pairs.ofFields (updateFields old values) } := by
  have hold : Pairs.ofValue ((fields.lookup scanTable).getD (.table []))
      = .ok (Pairs.ofFields old) := by
    rcases h with ⟨hnone, rfl⟩ | ⟨inline, hsome⟩
    · rw [hnone]
      rfl
    · rw [hsome]
      rfl
  simp only [mergeIntoScanTable, hold, bind, Except.bind, pure, Except.pure,
    Pairs.foldl_set_ofFields, Pairs.fields_ofFields]

/-- Saving succeeds if the folders above the path are made, the file is emptied and the text of the
    merged configuration is written. -/
theorem saveScanTable_eq_ok_iff {toml : Library} {volume saved : Volume} {path : Path}
    {fields values : List (String × Value)} {merged : MergedConfig}
    (hload : loadConfig toml volume path = .ok fields)
    (hmerge : mergeIntoScanTable fields values = .ok merged) :
    saveScanTable toml volume path values = (saved, .ok ()) ↔
      ∃ made emptied text, volume.makeFolders path.parent = (made, none) ∧
        made.writeBytes path [] = .ok emptied ∧ merged.write toml = .ok text ∧
        emptied.writeBytes path (encodeUtf8 text) = .ok saved := by
  simp only [saveScanTable, hload, hmerge, mapError_ok, bind, Except.bind]
  constructor
  · intro hsave
    split at hsave
    case h_1 => cases hsave
    case h_2 made hmade =>
      unfold MergedConfig.save at hsave
      split at hsave
      case h_1 => cases hsave
      case h_2 emptied hemptied =>
        split at hsave
        case h_1 => cases hsave
        case h_2 text htext =>
          split at hsave
          case h_1 hwritten =>
            cases hsave
            exact ⟨made, emptied, text, hmade, hemptied, htext, hwritten⟩
          case h_2 => cases hsave
  · rintro ⟨made, emptied, text, hmade, hemptied, htext, hwritten⟩
    simp only [hmade, MergedConfig.save, hemptied, htext, hwritten]

/-- A merged configuration is dumped in the layout, if it is plain. -/
theorem write_merged {toml : Library} (htoml : toml.IsDocumented)
    {fields old values : List (String × Value)} (hfields : IsPlainTable fields)
    (hold : IsPlainTable old) (hvalues : IsPlainTable values) :
    MergedConfig.write toml
        { fields := Value.setField fields scanTable (.table (updateFields old values))
          pairs := Pairs.ofFields (updateFields old values) }
      = .ok (layout (Value.setField fields scanTable (.table (updateFields old values)))) := by
  have hlookup : (Value.setField fields scanTable (.table (updateFields old values))).lookup
      scanTable = some (.table (updateFields old values)) := by
    rw [Value.lookup_setField, if_pos rfl]
  rw [MergedConfig.write, htoml.dump (isPlainTable_merged hfields hold hvalues) hlookup,
    mapError_ok]

theorem isPlainTable_of_lookup {fields old : List (String × Value)} (hfields : IsPlainTable fields)
    (h : fields.lookup scanTable = none ∧ old = [] ∨
      ∃ inline, fields.lookup scanTable = some (.table old inline)) : IsPlainTable old := by
  rcases h with ⟨-, rfl⟩ | ⟨inline, hsome⟩
  · exact isPlainTable_nil
  · exact isPlainValue_table_iff.1 (hfields.plainValue (mem_fields_of_lookup hsome))

/-- What has been merged into a plain configuration is read back from its document: the values under
    all other keys, and in the table of scan settings the new values before the old ones. -/
theorem exists_read?_merged {fields old values : List (String × Value)}
    (hfields : IsPlainTable fields) (hold : IsPlainTable old) (hvalues : IsPlainTable values) :
    ∃ read scan inline,
      read? none (layout (Value.setField fields scanTable (.table (updateFields old values))))
        = some read ∧
      IsPlainTable read ∧ read.lookup scanTable = some (.table scan inline) ∧
      (∀ key, key ≠ scanTable →
        Option.Rel Value.Matches (read.lookup key) (fields.lookup key)) ∧
      ∀ key, Option.Rel Value.Matches (scan.lookup key)
        ((values.lookup key).or (old.lookup key)) := by
  have hmerged := isPlainTable_merged hfields hold hvalues
  have hlookup := Value.lookup_setField fields scanTable (.table (updateFields old values))
  generalize Value.setField fields scanTable (.table (updateFields old values)) = all
    at hmerged hlookup ⊢
  obtain ⟨read, hread, hmatches⟩ := exists_read?_layout hmerged
  have hplain := IsPlainValue.of_matches (.table hmerged) hmatches (read?_isKeyed false hread)
  obtain ⟨scan, inline, hfound, hscan⟩ :=
    hmatches.exists_table_lookup ((hlookup scanTable).trans (if_pos rfl))
  refine ⟨read, scan, inline, hread, isPlainValue_table_iff.1 hplain, hfound,
    fun key hkey => ?_, fun key => ?_⟩
  · have hother := hmatches.rel_lookup key
    rwa [hlookup, if_neg hkey] at hother
  · have hupdated := hscan.rel_lookup key
    rwa [lookup_updateFields hvalues.distinct] at hupdated

/-- After scan settings have been saved, the configuration has values that match the old ones under
    all other keys, and in its table of scan settings values that match the new ones, or the old
    ones where there are no new ones. It must be a file that is saved to. -/
theorem loadConfig_of_saveScanTable {toml : Library} (htoml : toml.IsDocumented)
    {volume saved : Volume} {path : Path} {fields old values : List (String × Value)}
    (hvolume : volume.IsInOrder) (hload : loadConfig toml volume path = .ok fields)
    (hscan : loadScanTable toml volume path = .ok old)
    (hfields : IsPlainTable fields) (hvalues : IsPlainTable values)
    (hsave : saveScanTable toml volume path values = (saved, .ok ()))
    (hpipe : ∀ location, saved.locate path = .ok location →
      saved.object? location ≠ some .pipe) :
    ∃ read scan inline, loadConfig toml saved path = .ok read ∧
      read.lookup scanTable = some (.table scan inline) ∧
      (∀ key, key ≠ scanTable →
        Option.Rel Value.Matches (read.lookup key) (fields.lookup key)) ∧
      ∀ key, Option.Rel Value.Matches (scan.lookup key)
        ((values.lookup key).or (old.lookup key)) := by
  have hlookup := lookup_of_loadScanTable hload hscan
  have hold := isPlainTable_of_lookup hfields hlookup
  have hmerge := mergeIntoScanTable_eq hlookup values
  obtain ⟨made, emptied, text, hmade, hemptied, hwrite, hwritten⟩ :=
    (saveScanTable_eq_ok_iff hload hmerge).1 hsave
  -- what is written is the document of the merged configuration, and it is read back
  obtain rfl := Except.ok.inj ((write_merged htoml hfields hold hvalues).symm.trans hwrite)
  obtain ⟨read, scan, inline, hread, -, hfound, hothers, hupdated⟩ :=
    exists_read?_merged hfields hold hvalues
  have hmadeInOrder : made.IsInOrder := by
    have hfolders := hvolume.makeFolders path.parent
    rwa [hmade] at hfolders
  obtain ⟨hexists, hbytes⟩ := (hmadeInOrder.writeBytes hemptied).read_of_writeBytes hwritten hpipe
  exact ⟨read, scan, inline, loadConfig_of_readBytes hexists hbytes
    (return_notMem_layout (isPlainTable_merged hfields hold hvalues)) (htoml.load hread), hfound,
    hothers, hupdated⟩

/-! ## A volume with one file -/

/-- The name of a configuration file. -/
def configName : Name := ⟨"config.toml", by decide⟩

/-- The path of a configuration file at the top. -/
def configPath : Path := ⟨.top, [.down configName]⟩

/-- A volume that holds nothing but a configuration file. -/
def configVolume (bytes : List UInt8) : Volume where
  entries := [([configName], .file bytes true)]
  plain := by
    intro entry hentry name hname
    rw [List.mem_singleton.1 hentry] at hname
    rw [List.mem_singleton.1 hname]
    decide

theorem isInOrder_configVolume (bytes : List UInt8) : (configVolume bytes).IsInOrder where
  working := Volume.isFolderWay_nil
  links := by
    intro entry hentry target htarget
    rw [List.mem_singleton.1 hentry] at htarget
    cases htarget

theorem resolve_configPath (bytes : List UInt8) (last : LastLink) :
    (configVolume bytes).resolve last configPath = .ok (.present [configName]) := by
  have hnull : configPath.hasNull = false := by decide +kernel
  have hshort : configPath.isTooLong = false := by decide +kernel
  rw [Volume.resolve, hnull, hshort]
  rfl

theorem locate_configPath (bytes : List UInt8) :
    (configVolume bytes).locate configPath = .ok [configName] := by
  rw [Volume.locate, resolve_configPath]
  rfl

theorem readBytes_configVolume (bytes : List UInt8) :
    (configVolume bytes).readBytes configPath = .ok bytes := by
  rw [Volume.readBytes, locate_configPath]
  rfl

theorem loadConfig_configVolume {toml : Library} {text : List Char}
    {fields : List (String × Value)} (hreturn : '\r' ∉ text) (hload : toml.load text = .ok fields) :
    loadConfig toml (configVolume (encodeUtf8 text)) configPath = .ok fields := by
  refine loadConfig_of_readBytes ?_ (readBytes_configVolume _) hreturn hload
  rw [Volume.exists?, locate_configPath]

theorem writeBytes_configVolume (bytes content : List UInt8) :
    (configVolume bytes).writeBytes configPath content = .ok (configVolume content) := by
  rw [Volume.writeBytes, resolve_configPath]
  rfl

/-- Scan settings are saved to the file when the merged configuration can be written. -/
theorem saveScanTable_configVolume {toml : Library} {text written : List Char}
    {fields values : List (String × Value)} {merged : MergedConfig} (hreturn : '\r' ∉ text)
    (hload : toml.load text = .ok fields) (hmerge : mergeIntoScanTable fields values = .ok merged)
    (hwrite : merged.write toml = .ok written) :
    saveScanTable toml (configVolume (encodeUtf8 text)) configPath values
      = (configVolume (encodeUtf8 written), .ok ()) :=
  (saveScanTable_eq_ok_iff (loadConfig_configVolume hreturn hload) hmerge).2
    ⟨_, _, written, rfl, writeBytes_configVolume _ _, hwrite, writeBytes_configVolume _ _⟩

/-- A configuration with a theme and no scan settings. -/
def themedFields : List (String × Value) :=
  [("ui", .table [("theme", .text "dark")])]

/-- Its text. -/
def themedText : List Char :=
  "[ui]\ntheme = \"dark\"\n".toList

/-- The text after a tab width has been saved. -/
def widenedText : List Char :=
  "[ui]\ntheme = \"dark\"\n\n[scan]\ntab_width = 2\n".toList

/-- A library that does just what is documented. -/
def plainLibrary : Library where
  load text := (read? none text).elim (.error .malformed) .ok
  dump fields _ _ := .ok (layout fields)

theorem isDocumented_plainLibrary : plainLibrary.IsDocumented where
  load h := by simp only [plainLibrary, h, Option.elim_some]
  dump _ _ := rfl

theorem load_plainLibrary {text : List Char} {fields : List (String × Value)}
    (h : read? none text = some fields) : plainLibrary.load text = .ok fields :=
  isDocumented_plainLibrary.load h

/-- The theme is still there after a tab width has been saved. -/
theorem loadConfig_of_saveScanTable_theme :
    plainLibrary.IsDocumented ∧
    (configVolume (encodeUtf8 themedText)).IsInOrder ∧
    loadConfig plainLibrary (configVolume (encodeUtf8 themedText)) configPath = .ok themedFields ∧
    loadScanTable plainLibrary (configVolume (encodeUtf8 themedText)) configPath = .ok [] ∧
    IsPlainTable themedFields ∧ IsPlainTable [("tab_width", .int 2)] ∧
    saveScanTable plainLibrary (configVolume (encodeUtf8 themedText)) configPath
        [("tab_width", .int 2)]
      = (configVolume (encodeUtf8 widenedText), .ok ()) ∧
    (∀ location, (configVolume (encodeUtf8 widenedText)).locate configPath = .ok location →
      (configVolume (encodeUtf8 widenedText)).object? location ≠ some .pipe) ∧
    ∃ read scan inline,
      loadConfig plainLibrary (configVolume (encodeUtf8 widenedText)) configPath = .ok read ∧
      read.lookup scanTable = some (.table scan inline) ∧
      (∀ key, key ≠ scanTable →
        Option.Rel Value.Matches (read.lookup key) (themedFields.lookup key)) ∧
      ∀ key, Option.Rel Value.Matches (scan.lookup key)
        (([("tab_width", .int 2)].lookup key).or (([] : List (String × Value)).lookup key)) := by
  have hreturn : '\r' ∉ themedText := by decide +kernel
  have hread : read? none themedText = some themedFields := by decide +kernel
  have hload := loadConfig_configVolume hreturn (load_plainLibrary hread)
  have hscan : loadScanTable plainLibrary (configVolume (encodeUtf8 themedText)) configPath
      = .ok [] := by
    rw [loadScanTable, hload]
    rfl
  have hfields : IsPlainTable themedFields :=
    isPlainTable_singleton (by decide +kernel)
      (.table (isPlainTable_singleton (by decide +kernel) (.item (.text (by decide +kernel)))))
  have hvalues : IsPlainTable [("tab_width", .int 2)] :=
    isPlainTable_singleton (by decide +kernel) (.item (.int 2))
  have hsave : saveScanTable plainLibrary (configVolume (encodeUtf8 themedText)) configPath
      [("tab_width", .int 2)] = (configVolume (encodeUtf8 widenedText), .ok ()) :=
    saveScanTable_configVolume hreturn (load_plainLibrary hread)
      (mergeIntoScanTable_eq (.inl ⟨rfl, rfl⟩) _) (by decide +kernel)
  have hpipe : ∀ location,
      (configVolume (encodeUtf8 widenedText)).locate configPath = .ok location →
      (configVolume (encodeUtf8 widenedText)).object? location ≠ some .pipe := by
    intro location hlocate
    rw [locate_configPath] at hlocate
    cases hlocate
    intro hobject
    cases hobject
  exact ⟨isDocumented_plainLibrary, isInOrder_configVolume _, hload, hscan, hfields, hvalues, hsave,
    hpipe, loadConfig_of_saveScanTable isDocumented_plainLibrary (isInOrder_configVolume _) hload
      hscan hfields hvalues hsave hpipe⟩

end SourceOutline
