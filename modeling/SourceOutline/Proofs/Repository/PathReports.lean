import SourceOutline.Proofs.Repository.Reach

set_option autoImplicit false

/-! # Reports and the paths that they are about

Every report of a walk is that of a folder, a file or a broken link that the walk comes to
(`exists_names_of_isReported`), and everything that the walk comes to is reported. What a report
says is told from the volume alone: the outline of a file that can be read, and whether a folder or
file has to be skipped. -/

namespace SourceOutline

variable {codecs : Codecs}

/-! ## Outlines -/

/-- Some nodes are the outline of the file at a path; there are none if the file cannot be read or
    decoded. -/
def IsOutlineAt (codecs : Codecs) (volume : Volume) (settings : Settings) (path : Path)
    (nodes : List Node) : Prop :=
  (∀ text, readText codecs volume settings.encoding path = .ok text →
    settings.scanOptions.outline path.text (fileId path.text) (String.ofList text) = .ok nodes) ∧
  ∀ fault, readText codecs volume settings.encoding path = .error fault → nodes = []

theorem DefinitionKind.isDefinition_label (kind : DefinitionKind) :
    definitionKinds.contains kind.label = true := by
  cases kind <;> decide

theorem ScanOptions.isDefinition_outline {options : ScanOptions}
    {sourcePath fileId source : String} {nodes : List Node}
    (h : options.outline sourcePath fileId source = .ok nodes) :
    ∀ node ∈ nodes, node.isDefinition = true := by
  obtain ⟨snippetLines, rfl⟩ := eq_outlineWith h
  intro node hnode
  obtain ⟨kind, hkind⟩ := (isDefinitionIn_of_mem node hnode).exists_kind
  rw [Node.isDefinition, hkind]
  exact kind.isDefinition_label

theorem IsOutlineAt.isDefinition {volume : Volume} {settings : Settings} {path : Path}
    {nodes : List Node} (h : IsOutlineAt codecs volume settings path nodes) :
    ∀ node ∈ nodes, node.isDefinition = true := by
  intro node hnode
  cases hread : readText codecs volume settings.encoding path with
  | ok text => exact ScanOptions.isDefinition_outline (h.1 text hread) node hnode
  | error fault => exact absurd (h.2 fault hread ▸ hnode) List.not_mem_nil

/-- The scan of a file gives the outline of its text, or a reason if it cannot be read. -/
theorem isOutlineAt_of_scanFile {volume : Volume} {settings : Settings} {path : Path}
    {scan : FileScan}
    (h : scanFile codecs volume settings.scanOptions path (fileId path.text) = .ok scan) :
    IsOutlineAt codecs volume settings path scan.nodes ∧
      (scan.skipReason.isSome = true ↔
        ∃ fault, readText codecs volume settings.encoding path = .error fault) := by
  have hencoding : settings.scanOptions.encoding = settings.encoding := rfl
  unfold scanFile at h
  rw [hencoding] at h
  unfold IsOutlineAt
  cases hread : readText codecs volume settings.encoding path with
  | ok text =>
    rw [hread] at h
    obtain ⟨nodes, hnodes, hscan⟩ := bind_eq_ok_iff.1 h
    obtain rfl := Except.ok.inj hscan
    exact ⟨⟨fun other hother => Except.ok.inj hother ▸ hnodes, nofun⟩, iff_of_false nofun nofun⟩
  | error fault =>
    rw [hread] at h
    simp only at h
    split at h
    case h_1 =>
      obtain rfl := Except.ok.inj h
      exact ⟨⟨nofun, fun _ _ => rfl⟩, iff_of_true rfl ⟨fault, rfl⟩⟩
    case h_2 => cases h

/-! ## Reports by their paths -/

/-- The folder by some names stands at the place of one that encloses it on the way. -/
def IsCyclePath (volume : Volume) (start : Path) (names : List Name) : Prop :=
  ∃ outer, outer <+: names ∧ outer ≠ names ∧
    volume.realLocation? (start.below outer) = volume.realLocation? (start.below names)

section

variable (codecs : Codecs) (volume : Volume) (settings : Settings) (start : Path)
  (names : List Name)
  (report : Report)

/-- The report of a folder that a walk comes to by some names. -/
structure IsFolderReport : Prop where
  folder : IsFolderPath volume settings start names
  path_eq : report.path = start.below names
  node_eq : ∃ label parentId, report.node? = some (folderNode (start.below names) label parentId)
  definitions_eq : report.definitions = []
  skipped_iff : report.reason?.isSome = true ↔ IsCyclePath volume start names ∨
    ∃ fault, volume.openFolder (start.below names) = .error fault

/-- The report of a file that a walk comes to by some names. -/
structure IsFileReport : Prop where
  file : IsFilePath volume settings start names
  path_eq : report.path = start.below names
  node_eq : ∃ label parentId, report.node? = some (fileNode (start.below names) label parentId)
  outline : IsOutlineAt codecs volume settings (start.below names) report.definitions
  skipped_iff : report.reason?.isSome = true ↔
    ∃ fault, readText codecs volume settings.encoding (start.below names) = .error fault

/-- The report of a link that a walk cannot tell. -/
structure IsBrokenReport : Prop where
  broken : IsBrokenPath volume settings start names
  path_eq : report.path = start.below names
  node_eq : report.node? = none
  definitions_eq : report.definitions = []
  skipped : report.reason?.isSome = true

end

section

variable {volume : Volume} {settings : Settings} {start : Path} {names : List Name}
  {report : Report}

theorem isSome_refusal?_iff {entered : List Location} {path : Path} :
    (refusal? volume entered path).isSome = true ↔
      volume.leadsInto path entered = true ∨ ∃ fault, volume.openFolder path = .error fault := by
  unfold refusal?
  cases volume.leadsInto path entered with
  | true => simp
  | false =>
    cases volume.openFolder path with
    | ok location => simp
    | error fault => simp

namespace Descends

variable {outer : List Name} {location : Location} {within : List Location} {name : Name}

/-- The folder at an entry is not gone into if it is a cycle or cannot be listed. -/
theorem isSome_refusal?_iff (h : Descends volume settings [] start outer location within)
    (hopen : IsOpenPath volume settings start outer) :
    (refusal? volume (location :: within) (start.below (outer ++ [name]))).isSome = true ↔
      IsCyclePath volume start (outer ++ [name]) ∨
        ∃ fault, volume.openFolder (start.below (outer ++ [name])) = .error fault := by
  have hwithin := h.mem_within_iff.2
  rw [SourceOutline.isSome_refusal?_iff, leadsInto_iff]
  refine or_congr_left ?_
  constructor
  · rintro ⟨real, hmem, hreal⟩
    obtain hnone | ⟨other, hother, hleads⟩ := (hwithin real).1 hmem
    · exact absurd hnone List.not_mem_nil
    · refine ⟨other, hother.trans (List.prefix_append _ _), ?_, hleads.trans hreal.symm⟩
      rintro rfl
      exact absurd hother.length_le (by simp)
  · rintro ⟨other, hother, hne, hleads⟩
    have houter := (List.prefix_concat_iff.1 hother).resolve_left hne
    obtain ⟨place, hplace⟩ := hopen.listable other houter
    have hreal := (Volume.openFolder_ok hplace).2
    exact ⟨place, (hwithin place).2 (.inr ⟨other, houter, hreal⟩), hleads.symm.trans hreal⟩

theorem isFolderReport (h : Descends volume settings [] start outer location within)
    (hopen : IsOpenPath volume settings start outer)
    (hfolder : IsFolderEntry volume settings location (start.below outer) name) :
    IsFolderReport volume settings start (outer ++ [name])
      (.ofFolder (start.below outer) name volume (location :: within)) := by
  have hin := (isFolderEntry_iff h.mem_within_iff.1).1 hfolder
  have hchild := Path.child_below start outer name
  refine ⟨⟨outer, name, rfl, hopen, hin⟩, hchild,
    ⟨name.text, some (folderId (start.below outer).text), ?_⟩, rfl, ?_⟩
  · rw [Report.ofFolder, hchild]
  · rw [Report.ofFolder, hchild]
    exact h.isSome_refusal?_iff hopen

theorem isFileReport (h : Descends volume settings [] start outer location within)
    (hopen : IsOpenPath volume settings start outer)
    (hfile : IsFileEntry volume settings location (start.below outer) name) {scan : FileScan}
    (hscan : scanFile codecs volume settings.scanOptions ((start.below outer).child name)
      (fileId ((start.below outer).child name).text) = .ok scan) :
    IsFileReport codecs volume settings start (outer ++ [name])
      (.ofFile (start.below outer) name scan) := by
  have hin := (isFileEntry_iff h.mem_within_iff.1).1 hfile
  have hchild := Path.child_below start outer name
  rw [hchild] at hscan
  obtain ⟨houtline, hskipped⟩ := isOutlineAt_of_scanFile hscan
  refine ⟨⟨outer, name, rfl, hopen, hin⟩, hchild,
    ⟨name.text, folderId (start.below outer).text, ?_⟩, houtline, hskipped⟩
  rw [Report.ofFile, hchild]

theorem isBrokenReport (h : Descends volume settings [] start outer location within)
    (hopen : IsOpenPath volume settings start outer) {reason : String}
    (hlost : IsLostEntry volume settings location (start.below outer) name reason) :
    IsBrokenReport volume settings start (outer ++ [name])
      (.ofLost (start.below outer) name reason) := by
  have hin := (exists_isLostEntry_iff h.mem_within_iff.1).1 ⟨reason, hlost⟩
  exact ⟨⟨outer, name, rfl, hopen, hin⟩, Path.child_below start outer name, rfl, rfl, rfl⟩

end Descends

/-! ## Every report is that of a path -/

section

variable (habsolute : start.isAbsolute = true) (hplain : start.hasNull = false)

include habsolute hplain

/-- What a walk reports is a folder, a file or a broken link that it comes to. -/
theorem exists_names_of_isReported (h : IsReported codecs volume settings [] start report) :
    ∃ names, IsFolderReport volume settings start names report ∨
      IsFileReport codecs volume settings start names report ∨
      IsBrokenReport volume settings start names report := by
  obtain ⟨outer, location, within, name, hdescends, -, hreport⟩ := h
  have hopen := ((exists_descends_iff habsolute hplain).1 ⟨_, _, hdescends⟩).1
  refine ⟨outer ++ [name], ?_⟩
  cases hreport with
  | folder hfolder => exact .inl (hdescends.isFolderReport hopen hfolder)
  | file hfile hscan => exact .inr (.inl (hdescends.isFileReport hopen hfile hscan))
  | lost hlost => exact .inr (.inr (hdescends.isBrokenReport hopen hlost))

/-- A walk comes to an entry of some kind if a visit from its start goes down to the folder. -/
theorem exists_descends_of_isEntryPath {kind : Path → Name → Prop}
    (h : IsEntryPath volume settings start kind names) :
    ∃ outer name location within, names = outer ++ [name] ∧
      IsOpenPath volume settings start outer ∧
      Descends volume settings [] start outer location within ∧
      settings.isExcluded name.text = false ∧ kind (start.below outer) name := by
  obtain ⟨outer, name, rfl, hopen, hin⟩ := h
  obtain ⟨location, within, hdescends⟩ := (exists_descends_iff habsolute hplain).2
    ⟨hopen, fun _ _ => leadsInto_nil⟩
  exact ⟨outer, name, location, within, rfl, hopen, hdescends, hin⟩

theorem exists_isFolderReport (h : IsFolderPath volume settings start names) :
    ∃ report, IsReported codecs volume settings [] start report ∧
      IsFolderReport volume settings start names report := by
  obtain ⟨outer, name, location, within, rfl, hopen, hdescends, hin⟩ :=
    exists_descends_of_isEntryPath habsolute hplain h
  have hfolder := (isFolderEntry_iff hdescends.mem_within_iff.1).2 hin
  have hname := mem_namesIn_of_entryRole (by rw [hfolder.role]; nofun)
  exact ⟨_, ⟨outer, location, within, name, hdescends, hname, .folder hfolder⟩,
    hdescends.isFolderReport hopen hfolder⟩

/-- Every file that a walk comes to is reported if it can be scanned. -/
theorem exists_isFileReport (h : IsFilePath volume settings start names)
    (hscan : ∃ scan, scanFile codecs volume settings.scanOptions (start.below names)
      (fileId (start.below names).text) = .ok scan) :
    ∃ report, IsReported codecs volume settings [] start report ∧
      IsFileReport codecs volume settings start names report := by
  obtain ⟨outer, name, location, within, rfl, hopen, hdescends, hin⟩ :=
    exists_descends_of_isEntryPath habsolute hplain h
  have hfile := (isFileEntry_iff hdescends.mem_within_iff.1).2 hin
  have hname := mem_namesIn_of_entryRole (by rw [hfile.role]; nofun)
  obtain ⟨scan, hscan⟩ := hscan
  rw [← Path.child_below] at hscan
  exact ⟨_, ⟨outer, location, within, name, hdescends, hname, .file hfile hscan⟩,
    hdescends.isFileReport hopen hfile hscan⟩

theorem exists_isBrokenReport (h : IsBrokenPath volume settings start names) :
    ∃ report, IsReported codecs volume settings [] start report ∧
      IsBrokenReport volume settings start names report := by
  obtain ⟨outer, name, location, within, rfl, hopen, hdescends, hin⟩ :=
    exists_descends_of_isEntryPath habsolute hplain h
  obtain ⟨reason, hlost⟩ := (exists_isLostEntry_iff hdescends.mem_within_iff.1).2 hin
  have hname := mem_namesIn_of_entryRole (by rw [hlost.role]; nofun)
  exact ⟨_, ⟨outer, location, within, name, hdescends, hname, .lost hlost⟩,
    hdescends.isBrokenReport hopen hlost⟩

end

end

end SourceOutline
