import SourceOutline.Proofs.Repository.Completion

set_option autoImplicit false

/-! # What a walk reports of each path

The findings of a walk fall into reports: what is found at one path stands together, the node of a
folder or file first, then the definitions of the file or the reason for which the folder or file is
skipped. `Descends` follows a visit down to the folders that it lists, and `IsReported` tells the
reports of their entries. The findings of a visit are exactly these reports, one for each path
(`visitFolder_account`). -/

namespace SourceOutline

/-! ## Reports -/

/-- What is found at one path. -/
structure Report where
  path : Path
  node? : Option Node := none
  definitions : List Node := []
  reason? : Option String := none

/-- The findings of a report. -/
def Report.findings (report : Report) : List Finding :=
  report.node?.toList.map .node ++ report.definitions.map .node
    ++ report.reason?.toList.map (.skipped report.path)

/-- Findings are the reports of some kind: all of them, one for each path. -/
def IsAccount (kind : Report → Prop) (found : List Finding) : Prop :=
  ∃ reports : List Report, found = reports.flatMap Report.findings ∧
    (reports.map (·.path)).Nodup ∧ ∀ report, report ∈ reports ↔ kind report

namespace IsAccount

variable {kind other : Report → Prop} {found others : List Finding}

theorem nil (h : ∀ report, ¬ kind report) : IsAccount kind [] :=
  ⟨[], rfl, List.nodup_nil, fun report => iff_of_false List.not_mem_nil (h report)⟩

theorem single {report : Report} (h : ∀ other, kind other ↔ other = report) :
    IsAccount kind report.findings := by
  refine ⟨[report], by simp, by simp, fun other => ?_⟩
  rw [List.mem_singleton, h]

/-- Findings account for the reports of two kinds one after the other, if these are at different
    paths. -/
theorem append (h : IsAccount kind found) (hother : IsAccount other others)
    (hpaths : ∀ a b, kind a → other b → a.path ≠ b.path) :
    IsAccount (fun report => kind report ∨ other report) (found ++ others) := by
  obtain ⟨reports, rfl, hdistinct, hmem⟩ := h
  obtain ⟨more, rfl, hmore, hmemMore⟩ := hother
  refine ⟨reports ++ more, List.flatMap_append.symm, ?_, fun report => ?_⟩
  · rw [List.map_append, List.nodup_append]
    refine ⟨hdistinct, hmore, fun a ha b hb => ?_⟩
    obtain ⟨first, hfirst, rfl⟩ := List.mem_map.1 ha
    obtain ⟨second, hsecond, rfl⟩ := List.mem_map.1 hb
    exact hpaths first second ((hmem first).1 hfirst) ((hmemMore second).1 hsecond)
  · rw [List.mem_append, hmem, hmemMore]

theorem congr (h : IsAccount kind found) (hkind : ∀ report, kind report ↔ other report) :
    IsAccount other found := by
  obtain ⟨reports, hfound, hdistinct, hmem⟩ := h
  exact ⟨reports, hfound, hdistinct, fun report => (hmem report).trans (hkind report)⟩

end IsAccount

/-! ## The reports of entries -/

/-- Why the folder at a path is not gone into while others are being visited. -/
def refusal? (volume : Volume) (entered : List Location) (path : Path) : Option String :=
  if volume.leadsInto path entered then some cycleReason
  else match volume.openFolder path with
    | .error fault => some fault.message
    | .ok _ => none

namespace Report

variable (path : Path) (name : Name)

/-- The report of an entry that is gone into, unless the folder is refused while others are being
    visited. -/
def ofFolder (volume : Volume) (entered : List Location) : Report where
  path := path.child name
  node? := some (folderNode (path.child name) name.text (some (folderId path.text)))
  reason? := refusal? volume entered (path.child name)

/-- The report of an entry whose file has been scanned. -/
def ofFile (scan : FileScan) : Report where
  path := path.child name
  node? := some (fileNode (path.child name) name.text (folderId path.text))
  definitions := scan.nodes
  reason? := scan.skipReason

/-- The report of an entry that cannot be told. -/
def ofLost (reason : String) : Report where
  path := path.child name
  reason? := some reason

end Report

section

variable (codecs : Codecs) (volume : Volume) (settings : Settings)

/-- The report of an entry of a folder that is listed while others are being visited. -/
inductive IsEntryReport (entered : List Location) (location : Location) (path : Path)
    (name : Name) : Report → Prop
  | folder (hfolder : IsFolderEntry volume settings location path name) :
      IsEntryReport entered location path name (.ofFolder path name volume (location :: entered))
  | file {scan : FileScan} (hfile : IsFileEntry volume settings location path name)
      (hscan : scanFile codecs volume settings.scanOptions (path.child name)
        (fileId (path.child name).text) = .ok scan) :
      IsEntryReport entered location path name (.ofFile path name scan)
  | lost {reason : String} (hlost : IsLostEntry volume settings location path name reason) :
      IsEntryReport entered location path name (.ofLost path name reason)

/-- A visit of the folder at a path, while others are being visited, goes down by names to a folder
    that it lists, by which time other folders are being visited. -/
inductive Descends :
    List Location → Path → List Name → Location → List Location → Prop
  | here {entered : List Location} {path : Path} {location : Location}
      (hopens : Opens volume entered path location) :
      Descends entered path [] location entered
  | deeper {entered within : List Location} {path : Path} {location place : Location} {name : Name}
      {names : List Name} (hopens : Opens volume entered path location)
      (hname : name ∈ volume.namesIn location)
      (hfolder : IsFolderEntry volume settings location path name)
      (hdescends : Descends (location :: entered) (path.child name) names place within) :
      Descends entered path (name :: names) place within

/-- A visit of the folder at a path, while others are being visited, reports something below. -/
def IsReported (entered : List Location) (path : Path) (report : Report) : Prop :=
  ∃ names location within name, Descends volume settings entered path names location within ∧
    name ∈ volume.namesIn location ∧
    IsEntryReport codecs volume settings within location (path.below names) name report

end

section

variable {codecs : Codecs} {volume : Volume} {settings : Settings} {entered : List Location}
  {path : Path}
  {location : Location} {name : Name} {report : Report}

theorem IsEntryReport.path_eq
    (h : IsEntryReport codecs volume settings entered location path name report) :
    report.path = path.child name := by
  cases h <;> rfl

theorem isReported_iff :
    IsReported codecs volume settings entered path report ↔
      ∃ location, Opens volume entered path location ∧ ∃ name ∈ volume.namesIn location,
        (IsEntryReport codecs volume settings entered location path name report ∨
          IsFolderEntry volume settings location path name ∧
            IsReported codecs volume settings (location :: entered) (path.child name) report) := by
  constructor
  · rintro ⟨names, place, within, last, hdescends, hlast, hreport⟩
    cases hdescends with
    | here hopens =>
      rw [Path.below_nil] at hreport
      exact ⟨place, hopens, last, hlast, .inl hreport⟩
    | @deeper _ _ _ location _ name names hopens hname hfolder hdescends =>
      rw [Path.below_cons] at hreport
      exact ⟨location, hopens, name, hname, .inr
        ⟨hfolder, names, place, within, last, hdescends, hlast, hreport⟩⟩
  · rintro ⟨location, hopens, name, hname, hreport | ⟨hfolder, hreport⟩⟩
    · exact ⟨[], location, entered, name, .here hopens, hname, by rwa [Path.below_nil]⟩
    · obtain ⟨names, place, within, last, hdescends, hlast, hreport⟩ := hreport
      exact ⟨name :: names, place, within, last, .deeper hopens hname hfolder hdescends, hlast,
        by rwa [Path.below_cons]⟩

theorem IsReported.exists_names (h : IsReported codecs volume settings entered path report) :
    ∃ name names, report.path = (path.child name).below names := by
  obtain ⟨names, location, within, name, -, -, hreport⟩ := h
  have hpath : report.path = path.below (names ++ [name]) := by
    rw [hreport.path_eq, Path.below_append, Path.below_cons, Path.below_nil]
  cases names with
  | nil => exact ⟨name, [], by rw [hpath, List.nil_append, Path.below_cons]⟩
  | cons first rest =>
    exact ⟨first, rest ++ [name], by rw [hpath, List.cons_append, Path.below_cons]⟩

theorem Path.below_ne_self {names : List Name} : (path.child name).below names ≠ path := by
  intro h
  rw [← Path.below_cons] at h
  exact List.cons_ne_nil name names (Path.below_inj.1 (h.trans path.below_nil.symm))

end

/-! ## The findings of a visit -/

section

variable {codecs : Codecs} {volume : Volume} {settings : Settings} {path : Path}
  {found : List Finding}

theorem visitFile_findings {name : Name}
    (h : visitFile codecs volume settings (path.child name) name (folderId path.text) = .ok found) :
    ∃ scan, scanFile codecs volume settings.scanOptions (path.child name)
        (fileId (path.child name).text) = .ok scan ∧
      found = (Report.ofFile path name scan).findings := by
  obtain ⟨scan, hscan, hfound⟩ := bind_eq_ok_iff.1 h
  refine ⟨scan, hscan, ?_⟩
  rw [← Except.ok.inj hfound]
  -- a file that is skipped has no definitions
  unfold scanFile at hscan
  split at hscan
  case h_1 =>
    obtain ⟨nodes, -, hscan⟩ := bind_eq_ok_iff.1 hscan
    rw [← Except.ok.inj hscan]
    simp [Report.findings, Report.ofFile]
  case h_2 =>
    split at hscan
    case h_1 =>
      rw [← Except.ok.inj hscan]
      simp [Report.findings, Report.ofFile]
    case h_2 => cases hscan

theorem visitEntry_of_isLostEntry {location : Location} {name : Name} {id reason : String}
    {enter : Path → String → Except ScanFault (List Finding)}
    (h : IsLostEntry volume settings location path name reason) :
    visitEntry codecs volume settings location path id enter name
      = .ok [.skipped (path.child name) reason] := by
  simp only [visitEntry, h.included, h.role, Bool.false_eq_true, if_false]

/-- What a visit finds at an entry that it does not go into accounts for its report. -/
theorem visitEntry_account_of_not_isFolderEntry (entered : List Location) {location : Location}
    {name : Name} {enter : Path → String → Except ScanFault (List Finding)}
    (hfolder : ¬ IsFolderEntry volume settings location path name)
    (h : visitEntry codecs volume settings location path (folderId path.text) enter name
      = .ok found) :
    IsAccount (IsEntryReport codecs volume settings entered location path name) found := by
  by_cases hfile : IsFileEntry volume settings location path name
  · rw [visitEntry_of_isFileEntry hfile] at h
    obtain ⟨scan, hscan, rfl⟩ := visitFile_findings h
    refine .single fun report => ⟨fun hreport => ?_, fun heq => heq ▸ .file hfile hscan⟩
    cases hreport with
    | folder hin => exact absurd hin hfolder
    | file _ hother => rw [Except.ok.inj (hother.symm.trans hscan)]
    | lost hlost => exact nomatch hlost.role.symm.trans hfile.role
  by_cases hlost : ∃ reason, IsLostEntry volume settings location path name reason
  · obtain ⟨reason, hlost⟩ := hlost
    obtain rfl := Except.ok.inj ((visitEntry_of_isLostEntry hlost).symm.trans h)
    refine IsAccount.single fun report => (?_ : _ ↔ report = .ofLost path name reason)
    refine ⟨fun hreport => ?_, fun heq => heq ▸ .lost hlost⟩
    cases hreport with
    | folder hin => exact absurd hin hfolder
    | file hin => exact absurd hin hfile
    | lost hother => rw [EntryRole.failed.inj (hother.role.symm.trans hlost.role)]
  -- any other entry is passed over
  obtain rfl : found = [] := by
    rcases visitEntry_of_neither hfolder hfile with ⟨_, -, herror⟩ | hempty | ⟨reason, hin, -⟩
    · exact nomatch herror.symm.trans h
    · exact Except.ok.inj (h.symm.trans hempty)
    · exact absurd ⟨reason, hin⟩ hlost
  refine .nil fun report hreport => ?_
  cases hreport with
  | folder hin => exact hfolder hin
  | file hin => exact hfile hin
  | lost hin => exact hlost ⟨_, hin⟩

/-- What a visit finds at an entry accounts for its report and for those of what is below, if this
    holds of folders. -/
theorem visitEntry_account (entered : List Location) {location : Location} {name : Name}
    {enter : Path → String → Except ScanFault (List Finding)}
    (henter : ∀ (child : Path) (found : List Finding),
      enter child (folderId child.text) = .ok found →
      ∃ rest, found = (refusal? volume (location :: entered) child).toList.map (.skipped child)
          ++ rest ∧
        IsAccount (IsReported codecs volume settings (location :: entered) child) rest)
    (h : visitEntry codecs volume settings location path (folderId path.text) enter name
      = .ok found) :
    IsAccount
      (fun report => IsEntryReport codecs volume settings entered location path name report ∨
        IsFolderEntry volume settings location path name ∧
          IsReported codecs volume settings (location :: entered) (path.child name) report)
      found := by
  by_cases hfolder : IsFolderEntry volume settings location path name
  · rw [visitEntry_of_isFolderEntry hfolder] at h
    obtain ⟨below, hbelow, rfl⟩ := map_eq_ok_iff.1 h
    obtain ⟨rest, rfl, hrest⟩ := henter _ _ hbelow
    have hown : IsAccount (IsEntryReport codecs volume settings entered location path name) _ :=
      .single fun report => by
        refine ⟨fun hreport => ?_, fun heq => heq ▸ .folder hfolder⟩
        cases hreport with
        | folder => rfl
        | file hfile => exact nomatch hfile.role.symm.trans hfolder.role
        | lost hlost => exact nomatch hlost.role.symm.trans hfolder.role
    -- the folder has its own report, and what is reported below it is about longer paths
    refine (hown.append hrest ?_).congr fun report => ?_
    · intro a b ha hb
      obtain ⟨next, names, hpath⟩ := hb.exists_names
      rw [ha.path_eq, hpath]
      exact Path.below_ne_self.symm
    · rw [and_iff_right hfolder]
  · refine (visitEntry_account_of_not_isFolderEntry entered hfolder h).congr fun report => ?_
    rw [iff_false_intro hfolder, false_and, or_false]

/-- What a visit finds at entries with distinct names accounts for what it reports of each. -/
theorem visitEntries_account (path : Path) {visit : Name → Except ScanFault (List Finding)}
    {kind : Name → Report → Prop}
    (hvisit : ∀ name found, visit name = .ok found → IsAccount (kind name) found)
    (hbelow : ∀ name report, kind name report →
      ∃ names, report.path = (path.child name).below names) :
    ∀ names : List Name, names.Nodup → ∀ found : List Finding,
      visitEntries visit names = .ok found →
      IsAccount (fun report => ∃ name ∈ names, kind name report) found := by
  intro names
  induction names with
  | nil =>
    intro _ found h
    rw [← Except.ok.inj h]
    exact .nil fun report ⟨name, hname, _⟩ => List.not_mem_nil hname
  | cons name rest ih =>
    intro hnodup found h
    obtain ⟨hname, hrest⟩ := List.nodup_cons.1 hnodup
    obtain ⟨first, others, hfirst, hothers, rfl⟩ := visitEntries_cons_eq_ok_iff.1 h
    refine ((hvisit name first hfirst).append (ih hrest others hothers) ?_).congr fun report => ?_
    · rintro a b ha ⟨next, hnext, hb⟩ hpath
      obtain ⟨more, hmore⟩ := hbelow name a ha
      obtain ⟨names, hnames⟩ := hbelow next b hb
      rw [hmore, hnames, ← Path.below_cons, ← Path.below_cons, Path.below_inj] at hpath
      exact hname ((List.cons.inj hpath).1 ▸ hnext)
    · simp only [List.mem_cons, exists_eq_or_imp]

/-- A visit of the folder at a path tells why it is not gone into, or else accounts for what is
    reported below it. -/
theorem visitFolder_account (volume : Volume) (settings : Settings) (entered : List Location)
    (path : Path) (id : String) :
    id = folderId path.text →
      ∀ found, visitFolder codecs volume settings entered path id = .ok found →
      ∃ rest, found = (refusal? volume entered path).toList.map (.skipped path) ++ rest ∧
        IsAccount (IsReported codecs volume settings entered path) rest := by
  fun_induction visitFolder codecs volume settings entered path id with
  | case1 entered path id hnull =>
    rintro - found h
    cases h
  | case2 entered path id hnull hentered =>
    rintro - found h
    refine ⟨[], ?_, .nil fun report hreport => ?_⟩
    · rw [← Except.ok.inj h, refusal?, if_pos hentered]
      rfl
    · obtain ⟨location, hopens, -⟩ := isReported_iff.1 hreport
      exact absurd hentered (Bool.eq_false_iff.1 hopens.fresh)
  | case3 entered path id hnull hentered fault hopen =>
    rintro - found h
    refine ⟨[], ?_, .nil fun report hreport => ?_⟩
    · rw [← Except.ok.inj h, refusal?, if_neg hentered, hopen]
      rfl
    · obtain ⟨location, hopens, -⟩ := isReported_iff.1 hreport
      cases hopen.symm.trans hopens.opened
  | case4 entered path id hnull hentered location hopen ih =>
    rintro rfl found h
    refine ⟨found, ?_, ?_⟩
    · rw [refusal?, if_neg hentered, hopen]
      rfl
    have hopens : Opens volume entered path location :=
      ⟨Bool.eq_false_iff.2 hnull, Bool.eq_false_iff.2 hentered, hopen⟩
    -- the entries have distinct names, so no path is reported of two of them
    refine (visitEntries_account path (fun name found hfound => visitEntry_account entered
      (fun child => ih child _ rfl) hfound) ?_ _
      (volume.nodup_sortedNames location) found h).congr fun report => ?_
    · rintro name report (hreport | ⟨-, hreport⟩)
      · exact ⟨[], hreport.path_eq.trans (Path.below_nil _).symm⟩
      · obtain ⟨next, names, hpath⟩ := hreport.exists_names
        exact ⟨next :: names, hpath.trans (Path.below_cons _ _ _).symm⟩
    · rw [isReported_iff]
      constructor
      · rintro ⟨name, hname, hreport⟩
        exact ⟨location, hopens, name, Volume.mem_sortedNames.1 hname, hreport⟩
      · rintro ⟨other, hother, name, hname, hreport⟩
        obtain rfl := Except.ok.inj (hopen.symm.trans hother.opened)
        exact ⟨name, Volume.mem_sortedNames.2 hname, hreport⟩

end

end SourceOutline
