import Mathlib.Tactic.Tauto
import SourceOutline.Command.Run
import SourceOutline.Proofs.Config.Extensions
import SourceOutline.Proofs.Config.FailedSaving

set_option autoImplicit false

/-! # Names to exclude are only added

To add names to those that a configuration excludes, the list in the file is read, the names that
are not in it yet are put after it, and the whole file is written anew. The file can then be loaded
again: it excludes what it has excluded and the new names besides, everything else in it is as it
was, and adding the same names once more changes nothing (`runAddExcludes_adds`). -/

namespace SourceOutline

open Toml

variable {toml : Library} {volume saved : Volume} {path : Path} {old names : List String}
variable {fields table read scan : List (String × Value)}

/-! ## Files that can be saved -/

/-- A configuration file that is loaded as a plain table. -/
structure HoldsConfig (toml : Library) (volume : Volume) (path : Path)
    (fields : List (String × Value)) : Prop where
  inOrder : volume.IsInOrder
  file : ∃ content, volume.fileAt? path = some content
  load : loadConfig toml volume path = .ok fields
  plain : IsPlainTable fields

theorem fileAt?_of_writeBytes {written : Volume} {content bytes : List UInt8}
    (h : volume.IsInOrder) (hfile : volume.fileAt? path = some content)
    (hwrite : volume.writeBytes path bytes = .ok written) :
    written.fileAt? path = some bytes := by
  obtain ⟨location, hlocate, hobject | ⟨hobject, rfl⟩⟩ := h.locate_of_writeBytes hwrite
  · exact Volume.fileAt?_eq_some_iff.2 ⟨location, true, hlocate, hobject⟩
  · have hpipe : written.LeadsToPipe path := ⟨location, hlocate, hobject⟩
    rw [hpipe.fileAt?_eq_none] at hfile
    cases hfile

theorem exists_makeFolders_of_fileAt? {content : List UInt8} (h : volume.IsInOrder)
    (hfile : volume.fileAt? path = some content) :
    ∃ made, volume.makeFolders path.parent = (made, none) ∧ made.IsInOrder ∧
      made.fileAt? path = some content := by
  have hinOrder := h.makeFolders path.parent
  have hkept := @Volume.fileAt?_makeFolders volume path content path.parent hfile
  cases hmake : volume.makeFolders path.parent with
  | mk made fault? =>
    rw [hmake] at hinOrder hkept
    cases fault? with
    | none => exact ⟨made, rfl, hinOrder, hkept⟩
    | some fault =>
      rw [h.fileAt?_of_makeFolders hmake] at hkept
      cases hkept

/-- A file can be emptied and written anew, and is then there with the new bytes. -/
theorem exists_rewritten {content : List UInt8} (h : volume.IsInOrder)
    (hfile : volume.fileAt? path = some content) (bytes : List UInt8) :
    ∃ made emptied saved, volume.makeFolders path.parent = (made, none) ∧
      made.writeBytes path [] = .ok emptied ∧ emptied.writeBytes path bytes = .ok saved ∧
      saved.IsInOrder ∧ saved.fileAt? path = some bytes ∧ saved.exists? path = .ok true ∧
      saved.readBytes path = .ok bytes := by
  obtain ⟨made, hmake, hmade, hmadeFile⟩ := exists_makeFolders_of_fileAt? h hfile
  obtain ⟨emptied, hempty⟩ := hmade.exists_writeBytes_of_fileAt? hmadeFile []
  have hemptied := hmade.writeBytes hempty
  have hemptyFile := fileAt?_of_writeBytes hmade hmadeFile hempty
  obtain ⟨saved, hsaved⟩ := hemptied.exists_writeBytes_of_fileAt? hemptyFile bytes
  have hsavedFile := fileAt?_of_writeBytes hemptied hemptyFile hsaved
  have hpipe : ∀ location, saved.locate path = .ok location →
      saved.object? location ≠ some .pipe := by
    intro location hlocate hobject
    have hnone := Volume.LeadsToPipe.fileAt?_eq_none ⟨location, hlocate, hobject⟩
    rw [hsavedFile] at hnone
    cases hnone
  exact ⟨made, emptied, saved, hmake, hempty, hsaved, hemptied.writeBytes hsaved, hsavedFile,
    hemptied.read_of_writeBytes hsaved hpipe⟩

theorem HoldsConfig.isPlainTable_scan (h : HoldsConfig toml volume path fields)
    (hscan : loadScanTable toml volume path = .ok table) : IsPlainTable table :=
  isPlainTable_of_lookup h.plain (lookup_of_loadScanTable h.load hscan)

/-- Plain values can be saved into a configuration file. It can be loaded and saved again, with the
    values before the old ones in its table of scan settings, and with the other tables. -/
theorem HoldsConfig.exists_save (htoml : toml.IsDocumented)
    (h : HoldsConfig toml volume path fields) (hscan : loadScanTable toml volume path = .ok table)
    {values : List (String × Value)} (hvalues : IsPlainTable values) :
    ∃ saved read scan inline, saveScanTable toml volume path values = (saved, .ok ()) ∧
      HoldsConfig toml saved path read ∧ read.lookup scanTable = some (.table scan inline) ∧
      (∀ key, Option.Rel Value.Matches (scan.lookup key)
        ((values.lookup key).or (table.lookup key))) ∧
      ∀ key, key ≠ scanTable →
        Option.Rel Value.Matches (read.lookup key) (fields.lookup key) := by
  have htable := h.isPlainTable_scan hscan
  obtain ⟨hvolume, ⟨content, hfile⟩, hload, hfields⟩ := h
  have hmerge := mergeIntoScanTable_eq (lookup_of_loadScanTable hload hscan) values
  have hwrite := write_merged htoml hfields htable hvalues
  have hreturn := return_notMem_layout (isPlainTable_merged hfields htable hvalues)
  -- the text can be made, and it is read back
  obtain ⟨read, scan, inline, hread, hplain, hfound, htables, hsettings⟩ :=
    exists_read?_merged hfields htable hvalues
  obtain ⟨made, emptied, saved, hmake, hempty, hsaved, hinOrder, hsavedFile, hexists, hbytes⟩ :=
    exists_rewritten hvolume hfile (encodeUtf8 (layout _))
  have hsave := (saveScanTable_eq_ok_iff hload hmerge).2
    ⟨made, emptied, _, hmake, hempty, hwrite, hsaved⟩
  exact ⟨saved, read, scan, inline, hsave, ⟨hinOrder, ⟨_, hsavedFile⟩,
    loadConfig_of_readBytes hexists hbytes hreturn (htoml.load hread), hplain⟩, hfound, hsettings,
    htables⟩

/-! ## Adding names -/

/-- A list of names with more names after those that are new, each at its first occurrence. -/
def extendedNames (old names : List String) : List String :=
  old ++ (names.removeAll old).eraseDups

theorem mem_extendedNames {name : String} :
    name ∈ extendedNames old names ↔ name ∈ old ∨ name ∈ names := by
  rw [extendedNames, List.mem_append, List.mem_eraseDups, List.removeAll]
  by_cases hold : name ∈ old
  · simp [hold]
  · simp [hold]

theorem extendedNames_of_mem (h : ∀ name ∈ names, name ∈ old) : extendedNames old names = old := by
  have hnone : names.removeAll old = [] := by
    refine List.filter_eq_nil_iff.2 fun name hname => ?_
    simp [h name hname]
  rw [extendedNames, hnone, List.eraseDups_nil, List.append_nil]

/-- What adding names leaves of a configuration and of its table of scan settings: the list of names
    to exclude is extended, and everything else is as it was. -/
structure ExcludesAdded (old names : List String) (fields table read scan : List (String × Value)) :
    Prop where
  stored : scan.lookup "exclude" = some (.list ((extendedNames old names).map .text))
  settings : ∀ key, key ≠ "exclude" →
    Option.Rel Value.Matches (scan.lookup key) (table.lookup key)
  found : ∃ inline, read.lookup scanTable = some (.table scan inline)
  tables : ∀ key, key ≠ scanTable → Option.Rel Value.Matches (read.lookup key) (fields.lookup key)

/-- The names that are stored are those of the file with the new ones after them. -/
theorem extendedExcludes_eq (hscan : loadScanTable toml volume path = .ok table)
    (hold : (table.lookup "exclude").getD (.list []) = .list (old.map .text))
    (names : List String) :
    Command.extendedExcludes toml volume path names
      = .ok ((extendedNames old names).map .text) := by
  simp only [Command.extendedExcludes, hscan, hold, Value.items, mapError_ok, bind, Except.bind,
    pure, Except.pure, appendNew_eq, extendedNames]

/-- Names that are there already are added without a change. -/
theorem ExcludesAdded.matches_of_mem (h : ExcludesAdded old names fields table read scan)
    (hmem : ∀ name ∈ names, name ∈ old)
    (hfound : ∃ inline, fields.lookup scanTable = some (.table table inline))
    (hstored : table.lookup "exclude" = some (.list (old.map .text))) :
    Value.Matches (.table read) (.table fields) := by
  refine .of_rel (fun key => ?_) false false
  by_cases hkey : key = scanTable
  · subst hkey
    obtain ⟨inline, hread⟩ := h.found
    obtain ⟨inline', hfields⟩ := hfound
    rw [hread, hfields]
    refine .some (.of_rel (fun name => ?_) inline inline')
    by_cases hname : name = "exclude"
    · subst hname
      rw [h.stored, hstored, extendedNames_of_mem hmem]
      exact .some (.same rfl)
    · exact h.settings name hname
  · exact h.tables key hkey

/-- Plain names can be added to those that a configuration excludes. -/
theorem HoldsConfig.exists_runAddExcludes (htoml : toml.IsDocumented)
    (h : HoldsConfig toml volume path fields) (hscan : loadScanTable toml volume path = .ok table)
    (hold : (table.lookup "exclude").getD (.list []) = .list (old.map .text))
    (hnames : ∀ name ∈ names, IsPlainText name.toList) :
    ∃ saved summary read scan,
      Command.runAddExcludes toml volume path names = (saved, .ok summary) ∧
      HoldsConfig toml saved path read ∧ loadScanTable toml saved path = .ok scan ∧
      ExcludesAdded old names fields table read scan := by
  have holdPlain : IsPlainValue (.list (old.map .text)) := by
    rw [← hold]
    cases hlookup : table.lookup "exclude" with
    | none => exact .item (.list nofun)
    | some value => exact (h.isPlainTable_scan hscan).plainValue (mem_fields_of_lookup hlookup)
  have hstored : IsPlainValue (.list ((extendedNames old names).map .text)) := by
    refine isPlainValue_texts_iff.2 fun name hname => ?_
    exact (mem_extendedNames.1 hname).elim (isPlainValue_texts_iff.1 holdPlain name) (hnames name)
  have hvalues : IsPlainTable [("exclude", .list ((extendedNames old names).map .text))] :=
    isPlainTable_singleton (by decide +kernel) hstored
  obtain ⟨saved, read, scan, inline, hsave, hsaved, hfound, hsettings, htables⟩ :=
    h.exists_save htoml hscan hvalues
  have hload : loadScanTable toml saved path = .ok scan := by
    rw [loadScanTable, hsaved.load]
    simp only [bind, Except.bind, hfound, pure, Except.pure]
  obtain ⟨summary, hrun⟩ :
      ∃ summary, Command.runAddExcludes toml volume path names = (saved, .ok summary) := by
    simp only [Command.runAddExcludes, extendedExcludes_eq hscan hold, hsave]
    exact ⟨_, rfl⟩
  refine ⟨saved, summary, read, scan, hrun, hsaved, hload, ?_, fun key hkey => ?_,
    ⟨inline, hfound⟩, htables⟩
  · have hexclude := hsettings "exclude"
    rw [List.lookup_cons, beq_self_eq_true] at hexclude
    generalize scan.lookup "exclude" = found at hexclude ⊢
    cases hexclude with
    | some hvalue =>
      cases hvalue
      rfl
  · have hsetting := hsettings key
    rwa [List.lookup_cons, beq_eq_false_iff_ne.2 hkey] at hsetting

/-! ## Settings of a matching table -/

section

variable {v w : Value} {given found : Option Value}

theorem mem_keys_iff {key : String} : key ∈ fields.map Prod.fst ↔ fields.lookup key ≠ none := by
  constructor
  · intro hmem hnone
    obtain ⟨field, hfield, rfl⟩ := List.mem_map.1 hmem
    exact bne_iff_ne.1 (List.lookup_eq_none_iff.1 hnone field hfield) rfl
  · intro hsome
    obtain ⟨value, hvalue⟩ := Option.ne_none_iff_exists'.1 hsome
    exact List.mem_map.2 ⟨_, mem_fields_of_lookup hvalue, rfl⟩

theorem Value.Matches.asExtensions_eq (h : v.Matches w) : v.asExtensions = w.asExtensions := by
  -- the extensions that a table gives are its keys
  have htable : ∀ (fields : List (String × Value)) (inline : Bool),
      (Value.table fields inline).asExtensions
        = .ok (.list ((normalizeExtensions (fields.map Prod.fst)).map .text)) := by
    intro fields inline
    have hkeys : (Value.table fields inline).items
        = (Value.list ((fields.map Prod.fst).map .text)).items := by
      rw [List.map_map]
      rfl
    rw [← asExtensions_texts _ false, Value.asExtensions, hkeys, ← Value.asExtensions]
  cases h with
  | same => rfl
  | @table fields others inline inline' hkeys _ =>
    have hmem : ∀ key, key ∈ fields.map Prod.fst ↔ key ∈ others.map Prod.fst := by
      intro key
      rw [mem_keys_iff, mem_keys_iff, Ne, Ne, hkeys]
    have hsame : normalizeExtensions (fields.map Prod.fst)
        = normalizeExtensions (others.map Prod.fst) :=
      normalizeExtensions_congr fun text => by simp only [hmem]
    rw [htable, htable, hsame]

theorem Value.Matches.asQuantity_eq_ok {field : String} {least : Int} {quantity : Quantity}
    (h : v.Matches w) (hw : w.asQuantity field least = .ok quantity) :
    v.asQuantity field least = .ok quantity := by
  cases h with
  | same => exact hw
  | table => cases hw

theorem elim_asQuantity_of_rel {field : String} {least : Int} {base quantity : Quantity}
    (h : Option.Rel Value.Matches found given)
    (hgiven : given.elim (.ok base) (Value.asQuantity field least) = .ok quantity) :
    found.elim (.ok base) (Value.asQuantity field least) = .ok quantity := by
  cases h with
  | none => exact hgiven
  | some hvalue => exact hvalue.asQuantity_eq_ok hgiven

theorem matches_getD_of_rel {base : Value} (hbase : base.isTable = false)
    (h : Option.Rel Value.Matches found given) :
    Value.Matches (found.getD base) (given.getD base) := by
  cases h with
  | none => exact .same hbase
  | some hvalue => exact hvalue

end

theorem tableExtensions_of_rel
    (h : Option.Rel Value.Matches (scan.lookup "extensions") (table.lookup "extensions")) :
    tableExtensions scan = tableExtensions table := by
  unfold tableExtensions
  generalize scan.lookup "extensions" = found, table.lookup "extensions" = given at h ⊢
  cases h with
  | none => rfl
  | some hvalue => rw [Option.elim_some, Option.elim_some, hvalue.asExtensions_eq]

/-! ## Settings that a table gives alone -/

/-- The values that a table with a list of names to exclude gives for settings. -/
def givenBy (names : List String) (extensions table : List (String × Value)) :
    String → Option Value :=
  lastField? (("exclude", .list ((extendedNames defaultExcludes names).map .text)) :: extensions
    ++ plainFields table)

section

variable {extensions : List (String × Value)}

/-- A table is merged with no other source. -/
theorem mergesAs_of_table
    (hlisted : (table.lookup "exclude").getD (.list []) = .list (names.map .text))
    (hextensions : tableExtensions table = .ok extensions) :
    MergesAs table (.list []) [] (names.map .text) [] extensions [] where
  listed := by
    rw [hlisted]
    rfl
  further := rfl
  extensions := hextensions
  overriding := rfl

theorem givenBy_exclude (h : MergesAs table (.list []) [] (names.map .text) [] extensions []) :
    givenBy names extensions table "exclude"
      = some (.list ((extendedNames defaultExcludes names).map .text)) := by
  have hlast := h.lastField?_exclude List.nodup_nil
    (.list ((extendedNames defaultExcludes names).map .text)) List.not_mem_nil
  rwa [List.append_nil] at hlast

theorem givenBy_extensions (h : MergesAs table (.list []) [] (names.map .text) [] extensions []) :
    givenBy names extensions table "extensions" = extensions.lookup "extensions" := by
  have hlast := h.lastField?_eq List.nodup_nil
    (.list ((extendedNames defaultExcludes names).map .text)) "extensions"
  rw [List.append_nil, if_neg (by decide), lookup_plainFields, if_neg (by decide), Option.or_none]
    at hlast
  exact hlast

theorem givenBy_plain (h : MergesAs table (.list []) [] (names.map .text) [] extensions [])
    {name : String} (hname : name ∈ plainNames) :
    givenBy names extensions table name = table.lookup name := by
  have hlast := h.lastField?_plain List.nodup_nil
    (.list ((extendedNames defaultExcludes names).map .text)) hname
  rw [List.append_nil] at hlast
  exact hlast

/-- Settings are loaded from a file alone if its table gives extensions and the settings are told by
    the values that it gives. -/
theorem loadSettings_of_table {settings : Settings}
    (hscan : loadScanTable toml volume path = .ok table)
    (hlisted : (table.lookup "exclude").getD (.list []) = .list (names.map .text)) :
    loadSettings toml volume path (.list []) [] = .ok settings ↔
      ∃ extensions, tableExtensions table = .ok extensions ∧
        settings.IsGiven (givenBy names extensions table) := by
  have hnames : appendNew (defaultExcludes.map .text) (names.map .text ++ [])
      = (extendedNames defaultExcludes names).map .text := by
    rw [List.append_nil, appendNew_eq, extendedNames]
  rw [loadSettings_eq_ok_iff]
  constructor
  · rintro ⟨-, other, hother, given, hgiven, hsettings⟩
    obtain rfl : table = other := Except.ok.inj (hscan.symm.trans hother)
    obtain ⟨listed, further, extensions, overriding, hmerges, rfl⟩ := mergeFields_eq_ok_iff.1 hgiven
    obtain rfl : names.map Value.text = listed := by
      have hitems := hmerges.listed
      rw [hlisted] at hitems
      exact Except.ok.inj hitems
    obtain rfl : [] = further := Except.ok.inj hmerges.further
    obtain rfl : [] = overriding := Except.ok.inj hmerges.overriding
    rw [List.append_nil, hnames] at hsettings
    exact ⟨extensions, hmerges.extensions, (Settings.ofFields_eq_ok_iff.1 hsettings).2⟩
  · rintro ⟨extensions, hextensions, hgiven⟩
    have hmerges := mergesAs_of_table hlisted hextensions
    refine ⟨rfl, table, hscan, _, mergeFields_eq_ok_iff.2 ⟨_, _, _, _, hmerges, rfl⟩,
      Settings.ofFields_eq_ok_iff.2 ⟨strayField?_eq_none fun name hname => ?_, ?_⟩⟩
    · rw [List.append_nil] at hname
      exact (hmerges.sublist_names _).subset hname
    · rw [List.append_nil, hnames]
      exact hgiven

end

/-! ## Settings after names have been added -/

/-- Settings that exclude what others exclude and some names besides, and are the same else. -/
structure Settings.ExcludesMore (names : List String) (before after : Settings) : Prop where
  excluded : ∀ name, after.isExcluded name = true ↔ before.isExcluded name = true ∨ name ∈ names
  extensions : after.extensions = before.extensions
  snippetLines : after.snippetLines = before.snippetLines
  tabWidth : after.tabWidth = before.tabWidth
  encoding : after.encoding.Matches before.encoding
  followLinks : after.followLinks.Matches before.followLinks

/-- Where values match those that gave settings, and names to exclude are given, they give settings
    that exclude these names and are the same else. -/
theorem Settings.IsGiven.exists_of_rel {given found : String → Option Value} {before : Settings}
    {excluded : List String} (h : before.IsGiven given)
    (hrel : ∀ name ∈ plainNames, Option.Rel Value.Matches (found name) (given name))
    (hexclude : found "exclude" = some (.list (excluded.map .text)))
    (hextensions : found "extensions" = given "extensions") :
    ∃ after : Settings, after.IsGiven found ∧ after.exclude = excluded.map .text ∧
      after.extensions = before.extensions ∧ after.snippetLines = before.snippetLines ∧
      after.tabWidth = before.tabWidth ∧ after.encoding.Matches before.encoding ∧
      after.followLinks.Matches before.followLinks := by
  refine ⟨{ before with
    exclude := excluded.map .text
    encoding := (found "encoding").getD ({} : Settings).encoding
    followLinks := (found "follow_symlinks").getD ({} : Settings).followLinks },
    ⟨elim_asQuantity_of_rel (hrel _ (by decide)) h.snippetLines,
      elim_asQuantity_of_rel (hrel _ (by decide)) h.tabWidth, ?_, checkSimple_texts _, ?_, rfl,
      rfl⟩,
    rfl, rfl, rfl, rfl, ?_, ?_⟩
  · rw [hexclude]
    rfl
  · rw [hextensions]
    exact h.extensions
  · rw [h.encoding]
    exact matches_getD_of_rel rfl (hrel _ (by decide))
  · rw [h.followLinks]
    exact matches_getD_of_rel rfl (hrel _ (by decide))

/-- After names have been added, settings can be loaded if they could be before, and they exclude
    these names too. -/
theorem ExcludesAdded.exists_loadSettings {before : Settings}
    (h : ExcludesAdded old names fields table read scan)
    (htable : loadScanTable toml volume path = .ok table)
    (hscan : loadScanTable toml saved path = .ok scan)
    (hold : (table.lookup "exclude").getD (.list []) = .list (old.map .text))
    (hbefore : loadSettings toml volume path (.list []) [] = .ok before) :
    ∃ after, loadSettings toml saved path (.list []) [] = .ok after ∧
      before.ExcludesMore names after := by
  obtain ⟨extensions, hextensions, hgiven⟩ := (loadSettings_of_table htable hold).1 hbefore
  have hstored : (scan.lookup "exclude").getD (.list [])
      = .list ((extendedNames old names).map .text) := by
    rw [h.stored]
    rfl
  have hsame := (tableExtensions_of_rel (h.settings _ (by decide))).trans hextensions
  have hmerges := mergesAs_of_table hold hextensions
  have hmergesAfter := mergesAs_of_table hstored hsame
  have hrel : ∀ name ∈ plainNames, Option.Rel Value.Matches
      (givenBy (extendedNames old names) extensions scan name)
      (givenBy old extensions table name) := by
    intro name hname
    rw [givenBy_plain hmergesAfter hname, givenBy_plain hmerges hname]
    refine h.settings name ?_
    rintro rfl
    exact absurd hname (by decide)
  obtain ⟨after, hafter, hexcludeAfter, hextensionsAfter, hsnippets, htab, hencoding, hlinks⟩ :=
    hgiven.exists_of_rel hrel (givenBy_exclude hmergesAfter)
      ((givenBy_extensions hmergesAfter).trans (givenBy_extensions hmerges).symm)
  have hexclude : before.exclude = (extendedNames defaultExcludes old).map .text := by
    have hitems := hgiven.exclude
    rw [givenBy_exclude hmerges] at hitems
    exact (Except.ok.inj hitems).symm
  refine ⟨after, (loadSettings_of_table hscan hstored).2 ⟨extensions, hsame, hafter⟩,
    fun name => ?_, hextensionsAfter, hsnippets, htab, hencoding, hlinks⟩
  rw [isExcluded_iff_of_exclude hexcludeAfter, isExcluded_iff_of_exclude hexclude,
    mem_extendedNames, mem_extendedNames, mem_extendedNames]
  tauto

/-- To add names to those that a configuration excludes succeeds on a file that settings can be
    loaded from. Settings that are loaded afterwards exclude what was excluded before and these
    names, and they are the same else; the names are stored after the old ones, each at its first
    occurrence, and all other values in the file match the old ones. To add the names once more
    leaves a table that matches. -/
theorem runAddExcludes_adds (htoml : toml.IsDocumented) {before : Settings}
    (h : HoldsConfig toml volume path fields) (hscan : loadScanTable toml volume path = .ok table)
    (hold : (table.lookup "exclude").getD (.list []) = .list (old.map .text))
    (hnames : ∀ name ∈ names, IsPlainText name.toList)
    (hbefore : loadSettings toml volume path (.list []) [] = .ok before) :
    ∃ saved summary read scan after,
      Command.runAddExcludes toml volume path names = (saved, .ok summary) ∧
      loadConfig toml saved path = .ok read ∧ loadScanTable toml saved path = .ok scan ∧
      ExcludesAdded old names fields table read scan ∧
      loadSettings toml saved path (.list []) [] = .ok after ∧ before.ExcludesMore names after ∧
      ∃ again summary' reread,
        Command.runAddExcludes toml saved path names = (again, .ok summary') ∧
        loadConfig toml again path = .ok reread ∧ Value.Matches (.table reread) (.table read) := by
  obtain ⟨saved, summary, read, scan, hrun, hsaved, hsavedScan, hadded⟩ :=
    h.exists_runAddExcludes htoml hscan hold hnames
  obtain ⟨after, hafter, hmore⟩ := hadded.exists_loadSettings hscan hsavedScan hold hbefore
  have hstored : (scan.lookup "exclude").getD (.list [])
      = .list ((extendedNames old names).map .text) := by
    rw [hadded.stored]
    rfl
  obtain ⟨again, summary', reread, rescan, hrerun, hagain, -, hunchanged⟩ :=
    hsaved.exists_runAddExcludes htoml hsavedScan hstored hnames
  exact ⟨saved, summary, read, scan, after, hrun, hsaved.load, hsavedScan, hadded, hafter, hmore,
    again, summary', reread, hrerun, hagain.load,
    hunchanged.matches_of_mem (fun _ hname => mem_extendedNames.2 (.inr hname)) hadded.found
      hadded.stored⟩

/-! ## A configuration with nothing but names -/

/-- A configuration that excludes names. -/
def excludingFields (names : List String) : List (String × Value) :=
  [(scanTable, .table [("exclude", .list (names.map .text))])]

/-- Settings that exclude names after the default ones. -/
def excludingSettings (names : List String) : Settings where
  exclude := (extendedNames defaultExcludes names).map .text

theorem loadSettings_excludingFields
    (hload : loadConfig toml volume path = .ok (excludingFields names)) :
    loadScanTable toml volume path = .ok [("exclude", .list (names.map .text))] ∧
      loadSettings toml volume path (.list []) [] = .ok (excludingSettings names) := by
  have hscan : loadScanTable toml volume path = .ok [("exclude", .list (names.map .text))] := by
    rw [loadScanTable, hload]
    rfl
  have hmerges : MergesAs [("exclude", .list (names.map .text))] (.list []) [] (names.map .text)
      [] [] [] := mergesAs_of_table rfl rfl
  refine ⟨hscan, (loadSettings_of_table hscan rfl).2 ⟨[], rfl, ?_⟩⟩
  constructor
  · rw [givenBy_plain hmerges (by decide)]
    rfl
  · rw [givenBy_plain hmerges (by decide)]
    rfl
  · rw [givenBy_exclude hmerges]
    rfl
  · exact checkSimple_texts _
  · rw [givenBy_extensions hmerges]
    rfl
  · rw [givenBy_plain hmerges (by decide)]
    rfl
  · rw [givenBy_plain hmerges (by decide)]
    rfl

/-- The text of a configuration that excludes one name. -/
def excludingText : List Char :=
  "[scan]\nexclude = [ \"build\",]\n".toList

theorem holdsConfig_excludingText :
    HoldsConfig plainLibrary (configVolume (encodeUtf8 excludingText)) configPath
    (excludingFields ["build"]) where
  inOrder := isInOrder_configVolume _
  file := ⟨_, Volume.fileAt?_eq_some_iff.2 ⟨_, true, locate_configPath _, rfl⟩⟩
  load := loadConfig_configVolume (by decide +kernel)
    (load_plainLibrary (show read? none excludingText = _ by decide +kernel))
  plain := isPlainTable_singleton (by decide +kernel)
    (.table (isPlainTable_singleton (by decide +kernel)
      (isPlainValue_texts_iff.2 (List.all_iff_forall_prop.1 (by decide +kernel)))))

/-- Of two names to add to it one is new. -/
theorem runAddExcludes_adds_vendor :
    plainLibrary.IsDocumented ∧
    HoldsConfig plainLibrary (configVolume (encodeUtf8 excludingText)) configPath
      (excludingFields ["build"]) ∧
    loadSettings plainLibrary (configVolume (encodeUtf8 excludingText)) configPath (.list []) []
      = .ok (excludingSettings ["build"]) ∧
    (∀ name ∈ ["vendor", "build"], IsPlainText name.toList) ∧
    ∃ saved summary scan after,
      Command.runAddExcludes plainLibrary (configVolume (encodeUtf8 excludingText)) configPath
        ["vendor", "build"] = (saved, .ok summary) ∧
      loadScanTable plainLibrary saved configPath = .ok scan ∧
      scan.lookup "exclude" = some (.list (["build", "vendor"].map .text)) ∧
      loadSettings plainLibrary saved configPath (.list []) [] = .ok after ∧
      (excludingSettings ["build"]).ExcludesMore ["vendor", "build"] after := by
  obtain ⟨hscan, hsettings⟩ := loadSettings_excludingFields holdsConfig_excludingText.load
  have hnames : ∀ name ∈ ["vendor", "build"], IsPlainText name.toList :=
    List.all_iff_forall_prop.1 (by decide +kernel)
  obtain ⟨saved, summary, read, scan, after, hrun, -, hsavedScan, hadded, hafter, hmore, -⟩ :=
    runAddExcludes_adds isDocumented_plainLibrary holdsConfig_excludingText hscan rfl hnames
      hsettings
  exact ⟨isDocumented_plainLibrary, holdsConfig_excludingText, hsettings, hnames, saved, summary,
    scan, after, hrun, hsavedScan, hadded.stored, hafter, hmore⟩

end SourceOutline
