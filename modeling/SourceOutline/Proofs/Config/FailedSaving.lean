import SourceOutline.Proofs.Config.Saving
import SourceOutline.Proofs.Toml.Writing
import SourceOutline.Proofs.Volume.Making
import SourceOutline.Toml.Package

set_option autoImplicit false

/-! # What a save that fails leaves

Saving goes through several stages, each of which may fail: the configuration is loaded and merged,
folders are made, the file is emptied, and its new text is made and written (`StopsSaving`). Up to
the emptying of the file a failure leaves it as it was, whatever folders have been made, and an
emptied file can always be written. So a failed save costs the old content just if the library does
not make the new text (`fileAt?_of_failed_save`). -/

namespace SourceOutline

open Toml

variable {toml : Library} {volume after : Volume} {path : Path}
variable {values : List (String × Value)} {fault : SaveFault}

/-! ## Where saving stops -/

/-- The stages at which saving can stop, each with the volume and the fault that it leaves. -/
inductive StopsSaving (volume : Volume) (path : Path) : Volume → SaveFault → Prop
  | loading (reason : LoadFault) : StopsSaving volume path volume (.load reason)
  | merging (reason : PairsFault) : StopsSaving volume path volume (.pairs reason)
  | makingFolders {made : Volume} {reason : FileFault}
      (hmake : volume.makeFolders path.parent = (made, some reason)) :
      StopsSaving volume path made (.file reason)
  | emptying {made : Volume} {reason : FileFault}
      (hmake : volume.makeFolders path.parent = (made, none))
      (hempty : made.writeBytes path [] = .error reason) :
      StopsSaving volume path made (.file reason)
  | makingText {made emptied : Volume} (reason : WriteFault)
      (hmake : volume.makeFolders path.parent = (made, none))
      (hempty : made.writeBytes path [] = .ok emptied) :
      StopsSaving volume path emptied (.write reason)
  | writing {made emptied : Volume} {reason : FileFault} {bytes : List UInt8}
      (hmake : volume.makeFolders path.parent = (made, none))
      (hempty : made.writeBytes path [] = .ok emptied)
      (hwrite : emptied.writeBytes path bytes = .error reason) :
      StopsSaving volume path emptied (.file reason)

/-- A merged configuration is not saved because the file cannot be emptied, its text cannot be made
    or it cannot be written. -/
theorem stopsSaving_of_save {made : Volume} {merged : MergedConfig}
    (hmake : volume.makeFolders path.parent = (made, none))
    (h : merged.save toml made path = (after, .error fault)) :
    StopsSaving volume path after fault := by
  unfold MergedConfig.save at h
  split at h
  case h_1 reason hempty =>
    cases h
    exact .emptying hmake hempty
  case h_2 emptied hempty =>
    split at h
    case h_1 reason htext =>
      cases h
      rw [MergedConfig.write] at htext
      cases hwrite : toml.dump merged.fields scanTable merged.pairs with
      | ok text =>
        rw [hwrite] at htext
        cases htext
      | error reason =>
        rw [hwrite] at htext
        cases htext
        exact .makingText reason hmake hempty
    case h_2 =>
      split at h
      case h_1 => cases h
      case h_2 reason hwrite =>
        cases h
        exact .writing hmake hempty hwrite

theorem stopsSaving_of_saveScanTable
    (h : saveScanTable toml volume path values = (after, .error fault)) :
    StopsSaving volume path after fault := by
  unfold saveScanTable at h
  cases hload : loadConfig toml volume path with
  | error reason =>
    rw [hload] at h
    cases h
    exact .loading reason
  | ok fields =>
    cases hmerge : mergeIntoScanTable fields values with
    | error reason =>
      simp only [hload, hmerge, mapError_ok, mapError_error, bind, Except.bind] at h
      cases h
      exact .merging reason
    | ok merged =>
      simp only [hload, hmerge, mapError_ok, bind, Except.bind] at h
      split at h
      case h_1 hmake =>
        cases h
        exact .makingFolders hmake
      case h_2 hmake => exact stopsSaving_of_save hmake h

/-! ## What is left of the file -/

/-- A path leads to a pipe. -/
def Volume.LeadsToPipe (volume : Volume) (path : Path) : Prop :=
  ∃ location, volume.locate path = .ok location ∧ volume.object? location = some .pipe

theorem Volume.LeadsToPipe.fileAt?_eq_none (h : volume.LeadsToPipe path) :
    volume.fileAt? path = none := by
  obtain ⟨location, hlocate, hobject⟩ := h
  rw [Volume.fileAt?, hlocate]
  simp only [hobject]

theorem fileAt?_eq_of_made {made : Volume} {other : Path} {reason? : Option FileFault}
    (hmake : volume.makeFolders other = (made, reason?)) (hnone : made.fileAt? path = none) :
    made.fileAt? path = volume.fileAt? path := by
  cases hfile : volume.fileAt? path with
  | none => exact hnone
  | some content =>
    have hmade : (volume.makeFolders other).1.fileAt? path = some content :=
      Volume.fileAt?_makeFolders hfile
    rw [hmake] at hmade
    exact hmade

/-- Where some bytes can be written, any others can. -/
theorem exists_writeBytes_of_writeBytes {written : Volume} {content : List UInt8}
    (h : volume.writeBytes path content = .ok written) (bytes : List UInt8) :
    ∃ other, volume.writeBytes path bytes = .ok other := by
  obtain ⟨found, hresolve, hplace⟩ := bind_eq_ok_iff.1 h
  cases found with
  | vacant folder name => exact ⟨_, bind_eq_ok_iff.2 ⟨_, hresolve, rfl⟩⟩
  | present location =>
    simp only [Volume.writeBytes, hresolve, bind, Except.bind]
    split
    case h_1 hobject =>
      simp only [hobject] at hplace
      cases hplace
    case h_2 => exact ⟨_, rfl⟩
    case h_3 => exact ⟨_, rfl⟩

/-- A file that has been emptied can be written. -/
theorem exists_writeBytes_of_emptied {made emptied : Volume} (h : made.IsInOrder)
    (hempty : made.writeBytes path [] = .ok emptied) (bytes : List UInt8) :
    ∃ written, emptied.writeBytes path bytes = .ok written := by
  obtain ⟨location, hlocate, hobject | ⟨-, rfl⟩⟩ := h.locate_of_writeBytes hempty
  · have hfile : emptied.fileAt? path = some [] :=
      Volume.fileAt?_eq_some_iff.2 ⟨location, true, hlocate, hobject⟩
    exact (h.writeBytes hempty).exists_writeBytes_of_fileAt? hfile bytes
  · exact exists_writeBytes_of_writeBytes hempty bytes

/-- After it has been emptied, a path leads to an empty file, or to a pipe in an unchanged
    volume. -/
theorem fileAt?_of_emptied {made emptied : Volume} (h : made.IsInOrder)
    (hempty : made.writeBytes path [] = .ok emptied) :
    emptied.fileAt? path = some [] ∨ emptied.LeadsToPipe path ∧ emptied = made := by
  obtain ⟨location, hlocate, hobject | ⟨hobject, hsame⟩⟩ := h.locate_of_writeBytes hempty
  · exact .inl (Volume.fileAt?_eq_some_iff.2 ⟨location, true, hlocate, hobject⟩)
  · exact .inr ⟨⟨location, hlocate, hobject⟩, hsame⟩

/-- After a save that failed, the path leads to a file with the bytes that it had before, or to none
    if it led to none, unless the new text could not be made. Then the file is empty, if it is no
    pipe. -/
theorem fileAt?_of_failed_save (hvolume : volume.IsInOrder)
    (hsave : saveScanTable toml volume path values = (after, .error fault)) :
    (after.fileAt? path = volume.fileAt? path ↔
      (∀ reason, fault ≠ .write reason) ∨ volume.fileAt? path = some [] ∨
        after.LeadsToPipe path) ∧
    ((∃ reason, fault = .write reason) → ¬ after.LeadsToPipe path →
      after.fileAt? path = some []) := by
  -- a stage at which nothing is lost, and which is not the making of the text
  have hkept : after.fileAt? path = volume.fileAt? path → (∀ reason, fault ≠ .write reason) →
      (after.fileAt? path = volume.fileAt? path ↔
        (∀ reason, fault ≠ .write reason) ∨ volume.fileAt? path = some [] ∨
          after.LeadsToPipe path) ∧
      ((∃ reason, fault = .write reason) → ¬ after.LeadsToPipe path →
        after.fileAt? path = some []) := fun hsame hother =>
    ⟨iff_of_true hsame (.inl hother), fun ⟨reason, hreason⟩ => absurd hreason (hother reason)⟩
  have hmade : ∀ {made reason?}, volume.makeFolders path.parent = (made, reason?) →
      made.IsInOrder := by
    intro made reason? hmake
    have hfolders := hvolume.makeFolders path.parent
    rwa [hmake] at hfolders
  cases stopsSaving_of_saveScanTable hsave with
  | loading reason => exact hkept rfl nofun
  | merging reason => exact hkept rfl nofun
  | makingFolders hmake =>
    exact hkept (fileAt?_eq_of_made hmake (hvolume.fileAt?_of_makeFolders hmake)) nofun
  | emptying hmake hempty =>
    refine hkept (fileAt?_eq_of_made hmake ?_) nofun
    rw [Option.eq_none_iff_forall_ne_some]
    intro content hfile
    obtain ⟨written, hwritten⟩ := (hmade hmake).exists_writeBytes_of_fileAt? hfile []
    rw [hempty] at hwritten
    cases hwritten
  | makingText reason hmake hempty =>
    have hwrite : ¬ ∀ other, SaveFault.write reason ≠ .write other := fun h => h reason rfl
    obtain hfile | ⟨hpipe, rfl⟩ := fileAt?_of_emptied (hmade hmake) hempty
    · have hnoPipe : ¬ after.LeadsToPipe path := by
        intro hpipe
        rw [hpipe.fileAt?_eq_none] at hfile
        cases hfile
      refine ⟨?_, fun _ _ => hfile⟩
      rw [hfile, or_iff_right hwrite, or_iff_left hnoPipe]
      exact eq_comm
    · exact ⟨iff_of_true (fileAt?_eq_of_made hmake hpipe.fileAt?_eq_none) (.inr (.inr hpipe)),
        fun _ hnoPipe => absurd hpipe hnoPipe⟩
  | writing hmake hempty hwrite =>
    obtain ⟨written, hwritten⟩ := exists_writeBytes_of_emptied (hmade hmake) hempty _
    rw [hwrite] at hwritten
    cases hwritten

/-- A configuration whose scan settings are a number. -/
def numberScanText : List Char :=
  "scan = 5\n".toList

/-- Nothing can be saved into it, and the file is kept. -/
theorem fileAt?_of_failed_save_numberScanText :
    (configVolume (encodeUtf8 numberScanText)).IsInOrder ∧
    saveScanTable package (configVolume (encodeUtf8 numberScanText)) configPath
      [("tab_width", .int 2)]
      = (configVolume (encodeUtf8 numberScanText), .error (.pairs (.noItems "int"))) ∧
    ((configVolume (encodeUtf8 numberScanText)).fileAt? configPath
        = (configVolume (encodeUtf8 numberScanText)).fileAt? configPath ↔
      (∀ reason, SaveFault.pairs (.noItems "int") ≠ .write reason) ∨
        (configVolume (encodeUtf8 numberScanText)).fileAt? configPath = some [] ∨
        (configVolume (encodeUtf8 numberScanText)).LeadsToPipe configPath) ∧
    ((∃ reason, SaveFault.pairs (.noItems "int") = .write reason) →
      ¬ (configVolume (encodeUtf8 numberScanText)).LeadsToPipe configPath →
      (configVolume (encodeUtf8 numberScanText)).fileAt? configPath = some []) := by
  have hload : loadConfig package (configVolume (encodeUtf8 numberScanText)) configPath
      = .ok [(scanTable, .int 5)] := loadConfig_configVolume (by decide +kernel) (by decide +kernel)
  have hsave : saveScanTable package (configVolume (encodeUtf8 numberScanText)) configPath
      [("tab_width", .int 2)]
      = (configVolume (encodeUtf8 numberScanText), .error (.pairs (.noItems "int"))) := by
    rw [saveScanTable, hload]
    rfl
  exact ⟨isInOrder_configVolume _, hsave,
    fileAt?_of_failed_save (isInOrder_configVolume _) hsave⟩

/-- A list that holds a table after a number. -/
def mixedList : Value :=
  .list [.int 1, .table [("a", .int 1)]]

/-- A configuration with a theme into which it has been merged. -/
def mixedConfig : MergedConfig where
  fields := themedFields ++ [(scanTable, .table [("x", mixedList)])]
  pairs := [(.text "x", mixedList)]

/-- The list is refused where it stands, for the number in it. -/
theorem writeEntries_mixedList (budget : Nat) (path : List Char) :
    writeEntries budget path {} (entriesOf [("x", mixedList)])
      = .error (.valueAmongTables "int") := by
  have hkey : writeKey "x" = .ok ['x'] := by decide +kernel
  have hitems : writeElements budget (dottedKey path ['x']) [.int 1, .table [("a", .int 1)]]
      = .error (.valueAmongTables "int") := by
    rw [writeElements]
    rfl
  rw [entriesOf, List.map_singleton, mixedList, writeEntries, hkey]
  simp only [bind, Except.bind, holdsTable, List.any_cons, List.any_nil, Bool.false_or,
    Bool.true_or, if_true, hitems]

theorem writeEntries_theme (budget : Nat) (path : List Char) :
    writeEntries budget path {} (entriesOf [("theme", .text "dark")])
      = .ok (({} : Written).addPlain (keyText "theme") "\"dark\"".toList) := by
  have htext : writeValue (.text "dark") = .ok "\"dark\"".toList := by decide +kernel
  rw [entriesOf, List.map_singleton,
    writeEntries_plain (by decide +kernel) (.text (by decide +kernel)) htext, writeEntries]

/-- The tables of the merged configuration. -/
def mixedLevel : Waiting :=
  [(keyText "ui", entriesOf [("theme", .text "dark")]),
    (keyText scanTable, entriesOf [("x", mixedList)])]

theorem writeEntries_mixedConfig (budget : Nat) :
    writeEntries budget [] {} (entriesOf mixedConfig.fields) = .ok { subtables := mixedLevel } := by
  have hui : writeKey "ui" = .ok (keyText "ui") := by decide +kernel
  have hscan : writeKey scanTable = .ok (keyText scanTable) := by decide +kernel
  show writeEntries budget [] {} [("ui", some (.table [("theme", .text "dark")])),
    (scanTable, some (.table [("x", mixedList)]))] = _
  rw [writeEntries_table hui, writeEntries_table hscan, writeEntries]
  rfl

theorem writeLevel_mixedLevel (budget : Nat) :
    writeLevel budget [] [] mixedLevel = .error (.valueAmongTables "int") := by
  rw [mixedLevel, writeLevel, writeEntries_theme]
  simp only [bind, Except.bind]
  rw [writeLevel, writeEntries_mixedList]
  rfl

theorem write_mixedConfig :
    mixedConfig.write package = .error (.write (.valueAmongTables "int")) := by
  have hscan : writeKey scanTable = .ok (keyText scanTable) := by decide +kernel
  have hlevels (nesting budget : Nat) :
      writeLevels nesting (budget + 1) [] mixedLevel = .error (.valueAmongTables "int") :=
    congrArg (fun written : Except WriteFault (List Char × Waiting) =>
      written >>= fun found => writeLevels nesting budget found.1 found.2)
      (writeLevel_mixedLevel nesting)
  have hwrite : write mixedConfig.fields scanTable (entriesOf [("x", mixedList)])
      = .error (.valueAmongTables "int") := by
    rw [write, writeEntries_mixedConfig, hscan]
    exact hlevels _ _
  rw [MergedConfig.write]
  exact congrArg (Except.mapError SaveFault.write) hwrite

/-- When it is saved into a configuration with a theme, the save fails, and the file is empty. -/
theorem saveScanTable_mixedList :
    (configVolume (encodeUtf8 themedText)).fileAt? configPath = some (encodeUtf8 themedText) ∧
    encodeUtf8 themedText ≠ [] ∧
    saveScanTable package (configVolume (encodeUtf8 themedText)) configPath [("x", mixedList)]
      = (configVolume [], .error (.write (.valueAmongTables "int"))) ∧
    (configVolume []).fileAt? configPath = some [] := by
  have hfile : ∀ bytes, (configVolume bytes).fileAt? configPath = some bytes := fun bytes =>
    Volume.fileAt?_eq_some_iff.2 ⟨_, true, locate_configPath bytes, rfl⟩
  refine ⟨hfile _, by decide +kernel, ?_, hfile _⟩
  have hload : loadConfig package (configVolume (encodeUtf8 themedText)) configPath
      = .ok themedFields :=
    loadConfig_configVolume (by decide +kernel) (by decide +kernel)
  have hmerge : mergeIntoScanTable themedFields [("x", mixedList)] = .ok mixedConfig := rfl
  have hmake : (configVolume (encodeUtf8 themedText)).makeFolders configPath.parent
      = (configVolume (encodeUtf8 themedText), none) := rfl
  simp only [saveScanTable, hload, hmerge, mapError_ok, bind, Except.bind, hmake,
    MergedConfig.save, writeBytes_configVolume, write_mixedConfig]

end SourceOutline
