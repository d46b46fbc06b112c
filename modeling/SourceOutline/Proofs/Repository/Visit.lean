import SourceOutline.Proofs.Repository.Reading
import SourceOutline.Proofs.Volume.PathText
import SourceOutline.Repository.Walk

set_option autoImplicit false

/-! # What a visit does with one entry

Of the entries of a folder two kinds matter to a walk: folders that it goes into and files that it
reads. For each kind there is one equation for `visitEntry`; any other entry gives at most a reason
for which it is skipped, and no node (`visitEntry_of_neither`). The entries of a folder are visited
one after another, so all of them succeed or the first fault is the fault of the folder. Only a
folder that is gone into can be reported as a cycle (`cycle_notMem_visitEntry`). -/

namespace SourceOutline

variable {codecs : Codecs}

/-! ## Kinds of entries -/

section Entry

variable (volume : Volume) (settings : Settings) (location : Location) (path : Path) (name : Name)

/-- A walk goes into the entry. -/
structure IsFolderEntry : Prop where
  included : settings.isExcluded name.text = false
  role : entryRole volume settings.followLinks.isTrue location path name = .folder

/-- A walk reads the entry. -/
structure IsFileEntry : Prop where
  included : settings.isExcluded name.text = false
  role : entryRole volume settings.followLinks.isTrue location path name = .file
  supported : settings.isSupported name.text = .ok true

/-- A walk cannot tell what the entry is. -/
structure IsLostEntry (reason : String) : Prop where
  included : settings.isExcluded name.text = false
  role : entryRole volume settings.followLinks.isTrue location path name = .failed reason

variable {volume settings location path name} {id : String}
  {enter : Path → String → Except ScanFault (List Finding)}

theorem visitEntry_of_isFolderEntry (h : IsFolderEntry volume settings location path name) :
    visitEntry codecs volume settings location path id enter name
      = (enter (path.child name) (folderId (path.child name).text)).map
          (.node (folderNode (path.child name) name.text (some id)) :: ·) := by
  simp only [visitEntry, h.included, h.role]
  rfl

/-- An entry that is not gone into does not depend on what is in folders. -/
theorem visitEntry_of_not_isFolderEntry
    (h : ¬ IsFolderEntry volume settings location path name) (id : String)
    (enter other : Path → String → Except ScanFault (List Finding)) :
    visitEntry codecs volume settings location path id enter name
      = visitEntry codecs volume settings location path id other name := by
  unfold visitEntry
  split
  case isTrue => rfl
  case isFalse hincluded =>
    cases hrole : entryRole volume settings.followLinks.isTrue location path name with
    | folder => exact absurd ⟨Bool.eq_false_iff.2 hincluded, hrole⟩ h
    | _ => rfl

theorem visitEntry_of_isFileEntry (h : IsFileEntry volume settings location path name) :
    visitEntry codecs volume settings location path id enter name
      = visitFile codecs volume settings (path.child name) name id := by
  simp only [visitEntry, h.included, h.role, h.supported]
  rfl

/-- An entry that is neither gone into nor read is passed over, or skipped if it cannot be told,
    unless the settings do not tell whether it is supported. -/
theorem visitEntry_of_neither (hfolder : ¬ IsFolderEntry volume settings location path name)
    (hfile : ¬ IsFileEntry volume settings location path name) :
    (∃ fault, settings.isSupported name.text = .error fault ∧
      visitEntry codecs volume settings location path id enter name = .error (.settings fault)) ∨
    visitEntry codecs volume settings location path id enter name = .ok [] ∨
    ∃ reason, IsLostEntry volume settings location path name reason ∧
      visitEntry codecs volume settings location path id enter name
        = .ok [.skipped (path.child name) reason] := by
  by_cases hexcluded : settings.isExcluded name.text = true
  · exact .inr (.inl (by simp only [visitEntry, hexcluded, if_true]))
  have hincluded : settings.isExcluded name.text = false := Bool.eq_false_iff.2 hexcluded
  cases hrole : entryRole volume settings.followLinks.isTrue location path name with
  | folder => exact absurd ⟨hincluded, hrole⟩ hfolder
  | ignored =>
    refine .inr (.inl ?_)
    simp only [visitEntry, hincluded, hrole, Bool.false_eq_true, if_false]
  | failed reason =>
    refine .inr (.inr ⟨reason, ⟨hincluded, hrole⟩, ?_⟩)
    simp only [visitEntry, hincluded, hrole, Bool.false_eq_true, if_false]
  | file =>
    -- a supported file would be read, so this one is not, or the settings do not tell
    cases hsupported : settings.isSupported name.text with
    | error fault =>
      refine .inl ⟨fault, rfl, ?_⟩
      simp only [visitEntry, hincluded, hrole, hsupported, Bool.false_eq_true, if_false]
      rfl
    | ok supported =>
      cases supported with
      | true => exact absurd ⟨hincluded, hrole, hsupported⟩ hfile
      | false =>
        refine .inr (.inl ?_)
        simp only [visitEntry, hincluded, hrole, hsupported, Bool.false_eq_true, if_false]
        rfl

end Entry

/-! ## Files -/

section File

variable {volume : Volume} {settings : Settings} {path : Path} {name : Name} {parentId : String}
  {found : List Finding}

theorem ReadFault.skipReason?_ne_cycleReason {fault : ReadFault} {encoding : Value}
    {reason : String} (h : fault.skipReason? encoding = some reason) : reason ≠ cycleReason := by
  cases fault with
  | file fault =>
    cases fault <;> cases h <;> decide
  | decoding fault =>
    cases fault with
    | refused words => cases h
    | undecodable fault =>
      -- the first letters are different
      rw [← Option.some.inj h]
      intro heq
      have hlists := congrArg String.toList heq
      simp [cycleReason] at hlists
  | encoding fault => cases h
  | encodingType type => cases h

/-- A file that has been visited gives its node, and then the reason for which it is skipped or the
    nodes of an outline of its text. -/
theorem visitFile_eq_ok (h : visitFile codecs volume settings path name parentId = .ok found) :
    (∃ reason, reason ≠ cycleReason ∧
      found = [.node (fileNode path name.text parentId), .skipped path reason]) ∨
    ∃ text nodes,
      settings.scanOptions.outline path.text (fileId path.text) (String.ofList text) = .ok nodes ∧
      found = .node (fileNode path name.text parentId) :: nodes.map .node := by
  obtain ⟨scan, hscan, hfound⟩ := bind_eq_ok_iff.1 h
  cases hfound
  unfold scanFile at hscan
  split at hscan
  case h_1 text _ =>
    obtain ⟨nodes, hnodes, hscan⟩ := bind_eq_ok_iff.1 hscan
    cases hscan
    exact .inr ⟨text, nodes, hnodes, rfl⟩
  case h_2 fault _ =>
    split at hscan
    case h_1 reason hreason =>
      cases hscan
      exact .inl ⟨reason, ReadFault.skipReason?_ne_cycleReason hreason, rfl⟩
    case h_2 => cases hscan

end File

/-! ## Sequences of entries -/

section Entries

variable {visit : Name → Except ScanFault (List Finding)}

theorem visitEntries_cons_eq_ok_iff {name : Name} {rest : List Name} {found : List Finding} :
    visitEntries visit (name :: rest) = .ok found ↔ ∃ first others, visit name = .ok first ∧
      visitEntries visit rest = .ok others ∧ found = first ++ others := by
  rw [visitEntries, bind_eq_ok_iff]
  constructor
  · rintro ⟨first, hfirst, hrest⟩
    obtain ⟨others, hothers, hfound⟩ := bind_eq_ok_iff.1 hrest
    cases hfound
    exact ⟨first, others, hfirst, hothers, rfl⟩
  · rintro ⟨first, others, hfirst, hothers, rfl⟩
    exact ⟨first, hfirst, bind_eq_ok_iff.2 ⟨others, hothers, rfl⟩⟩

theorem visitEntries_cons_of_ok {name : Name} {first : List Finding} (rest : List Name)
    (h : visit name = .ok first) :
    visitEntries visit (name :: rest) = (visitEntries visit rest).map (first ++ ·) := by
  simp only [visitEntries, h, bind, Except.bind]
  cases visitEntries visit rest <;> rfl

theorem visitEntries_cons_of_error {name : Name} {fault : ScanFault} (rest : List Name)
    (h : visit name = .error fault) : visitEntries visit (name :: rest) = .error fault := by
  simp only [visitEntries, h, bind, Except.bind]

/-- A sequence of entries succeeds if and only if each of them does. -/
theorem exists_visitEntries_eq_ok_iff {names : List Name} :
    (∃ found, visitEntries visit names = .ok found) ↔
      ∀ name ∈ names, ∃ found, visit name = .ok found := by
  induction names with
  | nil => simp [visitEntries]
  | cons name rest ih =>
    rw [List.forall_mem_cons, ← ih]
    constructor
    · rintro ⟨found, hfound⟩
      obtain ⟨first, others, hfirst, hothers, -⟩ := visitEntries_cons_eq_ok_iff.1 hfound
      exact ⟨⟨first, hfirst⟩, ⟨others, hothers⟩⟩
    · rintro ⟨⟨first, hfirst⟩, ⟨others, hothers⟩⟩
      exact ⟨_, visitEntries_cons_eq_ok_iff.2 ⟨first, others, hfirst, hothers, rfl⟩⟩

end Entries

/-! ## Names and the start -/

section Volume

variable {volume : Volume} {location : Location} {name : Name}

theorem Volume.mem_sortedNames :
    name ∈ volume.sortedNames location ↔ name ∈ volume.namesIn location :=
  List.mem_mergeSort

theorem Volume.mem_namesIn_iff :
    name ∈ volume.namesIn location ↔ (volume.object? (name :: location)).isSome = true := by
  have hlookup : volume.object? (name :: location) = volume.entries.lookup (name :: location) := rfl
  rw [hlookup, List.lookup_isSome_iff, Volume.namesIn, List.mem_filterMap]
  refine exists_congr fun entry => and_congr_right fun _ => ?_
  obtain ⟨place, object⟩ := entry
  cases place with
  | nil => exact iff_of_false nofun (by simp)
  | cons first folder =>
    rw [beq_iff_eq, List.cons.injEq, Option.ite_none_right_eq_some, Option.some.injEq]
    exact ⟨fun h => ⟨h.2.symm, h.1.symm⟩, fun h => ⟨h.2.symm, h.1.symm⟩⟩

theorem Volume.hasNull_of_mem_namesIn (h : name ∈ volume.namesIn location) :
    name.hasNull = false := by
  obtain ⟨⟨place, object⟩, hentry, hname⟩ := List.mem_filterMap.1 h
  cases place with
  | nil => cases hname
  | cons first folder =>
    simp only [Option.ite_none_right_eq_some, Option.some.injEq] at hname
    exact hname.2 ▸ volume.plain _ hentry first List.mem_cons_self

end Volume

/-- The path from the top that a walk starts from. -/
def walkStart (volume : Volume) (root : Path) : Path :=
  Path.absolute volume.working.path root

theorem isAbsolute_walkStart (volume : Volume) (root : Path) :
    (walkStart volume root).isAbsolute = true :=
  Path.isAbsolute_absolute (Location.isAbsolute_path _) root

/-- A path below the start of a walk is read back from its text. -/
theorem ofText_text_below_walkStart (volume : Volume) (root : Path) (names : List Name) :
    Path.ofText ((walkStart volume root).below names).text
      = (walkStart volume root).below names := by
  refine Path.ofText_text (isAbsolute_walkStart volume root) fun hhere => ?_
  rcases List.mem_append.1 hhere with hstart | hbelow
  · exact Path.here_notMem_absolute _ _ hstart
  · obtain ⟨name, -, hstep⟩ := List.mem_map.1 hbelow
    cases hstep

/-- The node that a walk starts from. -/
def rootNode (start : Path) : Node :=
  folderNode start (rootLabel start) none

end SourceOutline
