import SourceOutline.Proofs.Repository.Completion
import SourceOutline.Proofs.Volume.Straight

set_option autoImplicit false

/-! # What a walk depends on

Where no link stands in a root or on the way to it, a walk depends on what stands at and above the
root and, below it, on what no excluded name leads to; and there it makes no difference what stands,
other than a folder, under a name that is not supported. Two volumes that do not differ in anything
else look alike from the root (`LooksAlike`), and walks from it give the same
(`LooksAlike.walk_congr`). -/

namespace SourceOutline

variable {codecs : Codecs}

/-! ## Names in order -/

/-- Folders that have the same names of some kind list them in the same order. -/
theorem Volume.filter_sortedNames_congr {volume other : Volume} {location : Location}
    {test : Name → Bool}
    (h : ∀ name, test name = true →
      (name ∈ volume.namesIn location ↔ name ∈ other.namesIn location)) :
    (volume.sortedNames location).filter test = (other.sortedNames location).filter test := by
  have hsorted : ∀ some : Volume, ((some.sortedNames location).filter test).Pairwise
      fun a b => decide (a.text ≤ b.text) = true := by
    intro some
    refine (List.pairwise_mergeSort ?_ ?_ _).sublist List.filter_sublist
    · intro a b c hab hbc
      exact decide_eq_true (String.le_trans (of_decide_eq_true hab) (of_decide_eq_true hbc))
    · intro a b
      rw [Bool.or_eq_true, decide_eq_true_eq, decide_eq_true_eq]
      exact String.le_total a.text b.text
  refine List.Perm.eq_of_pairwise ?_ (hsorted volume) (hsorted other) ?_
  · intro a b _ _ hab hba
    exact Name.eq_of_text_eq
      (String.le_antisymm (of_decide_eq_true hab) (of_decide_eq_true hba))
  · refine (List.perm_ext_iff_of_nodup ((volume.nodup_sortedNames location).filter _)
      ((other.nodup_sortedNames location).filter _)).2 fun name => ?_
    rw [List.mem_filter, List.mem_filter, Volume.mem_sortedNames, Volume.mem_sortedNames]
    exact and_congr_left (h name)

theorem visitEntries_filter {visit : Name → Except ScanFault (List Finding)} {test : Name → Bool}
    (names : List Name) (h : ∀ name ∈ names, test name = false → visit name = .ok []) :
    visitEntries visit names = visitEntries visit (names.filter test) := by
  induction names with
  | nil => rfl
  | cons name rest ih =>
    obtain ⟨hname, hrest⟩ := List.forall_mem_cons.1 h
    cases htest : test name with
    | true =>
      rw [List.filter_cons_of_pos htest]
      cases hvisit : visit name with
      | error fault =>
        rw [visitEntries_cons_of_error rest hvisit, visitEntries_cons_of_error _ hvisit]
      | ok first =>
        rw [visitEntries_cons_of_ok rest hvisit, visitEntries_cons_of_ok _ hvisit, ih hrest]
    | false =>
      rw [List.filter_cons_of_neg (Bool.eq_false_iff.1 htest),
        visitEntries_cons_of_ok rest (hname htest), ih hrest]
      cases visitEntries visit (rest.filter test) <;> rfl

theorem visitEntries_congr {visit other : Name → Except ScanFault (List Finding)}
    {names : List Name} (h : ∀ name ∈ names, visit name = other name) :
    visitEntries visit names = visitEntries other names := by
  induction names with
  | nil => rfl
  | cons name rest ih =>
    obtain ⟨hname, hrest⟩ := List.forall_mem_cons.1 h
    rw [visitEntries, visitEntries, hname, ih hrest]

/-! ## Visits by cases -/

section

variable {volume : Volume} {entered : List Location} {path : Path} {location : Location}

theorem visitFolder_of_error {fault : FileFault} (hplain : path.hasNull = false)
    (hfresh : volume.leadsInto path entered = false) (hopen : volume.openFolder path = .error fault)
    (settings : Settings) (id : String) :
    visitFolder codecs volume settings entered path id = .ok [.skipped path fault.message] := by
  rw [visitFolder, if_neg (Bool.eq_false_iff.1 hplain), dif_neg (Bool.eq_false_iff.1 hfresh)]
  split
  case h_1 other hother => rw [Except.error.inj (hopen.symm.trans hother)]
  case h_2 other hother => cases hopen.symm.trans hother

theorem visitFolder_of_opens (h : Opens volume entered path location) (settings : Settings)
    (id : String) :
    visitFolder codecs volume settings entered path id
      = visitEntries (visitEntry codecs volume settings location path id
          (visitFolder codecs volume settings (location :: entered)))
          (volume.sortedNames location) := by
  rw [visitFolder, if_neg (Bool.eq_false_iff.1 h.plain), dif_neg (Bool.eq_false_iff.1 h.fresh)]
  split
  case h_1 fault hother => cases h.opened.symm.trans hother
  case h_2 other hother => rw [Except.ok.inj (h.opened.symm.trans hother)]

end

/-! ## Volumes that look alike -/

/-- Two volumes without links in a root do not differ in what a walk from there depends on. Names
    are given innermost first. -/
structure LooksAlike (settings : Settings) (root : Location) (volume other : Volume) : Prop where
  linkFree : volume.IsLinkFreeFrom root
  linkFree_other : other.IsLinkFreeFrom root
  way : volume.IsLinkFreeTo root
  above : AgreesOnWay volume other root
  below : ∀ names : List Name, (∀ name ∈ names, settings.isExcluded name.text = false) →
    volume.object? (names ++ root) = other.object? (names ++ root) ∨
      (∃ name outer, names = name :: outer ∧ settings.isSupported name.text = .ok false) ∧
        volume.hasFolder (names ++ root) = false ∧ other.hasFolder (names ++ root) = false

section

variable {volume other : Volume} {settings : Settings} {location : Location} {path : Path}
  {name : Name} {id : String} {enter : Path → String → Except ScanFault (List Finding)}

theorem visitEntry_of_isExcluded (h : settings.isExcluded name.text = true) :
    visitEntry codecs volume settings location path id enter name = .ok [] := by
  rw [visitEntry, if_pos h]

theorem entryRole_eq (h : volume.hasLink (name :: location) = false) {follow : Bool} :
    entryRole volume follow location path name
      = ((volume.object? (name :: location)).map Object.role).getD .ignored := by
  unfold entryRole
  split
  case h_1 link hlink => exact absurd hlink (Volume.object?_ne_link h link)
  case h_2 object _ hobject => rw [hobject]; rfl
  case h_3 hnone => rw [hnone]; rfl

theorem visitEntry_of_unsupported (h : volume.hasLink (name :: location) = false)
    (hsupported : settings.isSupported name.text = .ok false)
    (hfolder : volume.hasFolder (name :: location) = false) :
    visitEntry codecs volume settings location path id enter name = .ok [] := by
  unfold visitEntry
  split
  case isTrue => rfl
  case isFalse =>
    rw [entryRole_eq h]
    unfold Volume.hasFolder at hfolder
    cases hobject : volume.object? (name :: location) with
    | none => rfl
    | some object =>
      cases object with
      | folder => simp [hobject] at hfolder
      | file => simp [Object.role, hsupported]; rfl
      | link => rfl
      | pipe => rfl

theorem visitFile_congr (h : readText codecs volume settings.encoding path
      = readText codecs other settings.encoding path) (name : Name) (parentId : String) :
    visitFile codecs volume settings path name parentId
      = visitFile codecs other settings path name parentId := by
  have hencoding : settings.scanOptions.encoding = settings.encoding := rfl
  rw [visitFile, visitFile, scanFile, scanFile, hencoding, h]

/-! ## Visits of volumes that look alike -/

/-- Whether two volumes hold the same at an entry that is not excluded. -/
def sameEntry (settings : Settings) (volume other : Volume) (location : Location) (name : Name) :
    Bool :=
  !settings.isExcluded name.text &&
    decide (volume.object? (name :: location) = other.object? (name :: location))

variable {root : Location} {names : List Name}

theorem LooksAlike.isLinkFreeTo (h : LooksAlike settings root volume other) (names : List Name) :
    volume.IsLinkFreeTo (names ++ root) ∧ other.IsLinkFreeTo (names ++ root) := by
  refine ⟨h.way.append h.linkFree names, .append (fun outer houter => ?_) h.linkFree_other names⟩
  have hway := h.way outer houter
  rwa [Volume.hasLink, h.above outer houter] at hway

/-- An entry at which volumes that look alike do not hold the same gives nothing in either. -/
theorem LooksAlike.visitEntry_of_not_sameEntry (h : LooksAlike settings root volume other)
    (codecs : Codecs) (path : Path) (id : String)
    (hincluded : ∀ name ∈ names, settings.isExcluded name.text = false)
    (hentry : sameEntry settings volume other (names ++ root) name = false) :
    (∀ enter, visitEntry codecs volume settings (names ++ root) path id enter name = .ok []) ∧
      ∀ enter, visitEntry codecs other settings (names ++ root) path id enter name = .ok [] := by
  cases hexcluded : settings.isExcluded name.text with
  | true =>
    exact ⟨fun _ => visitEntry_of_isExcluded hexcluded, fun _ => visitEntry_of_isExcluded hexcluded⟩
  | false =>
    have hdiffers : volume.object? (name :: (names ++ root))
        ≠ other.object? (name :: (names ++ root)) := by
      simpa [sameEntry, hexcluded] using hentry
    obtain hsame | ⟨⟨last, outer, hnames, hsupported⟩, hfolder, hfolderOther⟩ :=
      h.below (name :: names) (List.forall_mem_cons.2 ⟨hexcluded, hincluded⟩)
    · exact absurd hsame hdiffers
    · obtain ⟨rfl, -⟩ := List.cons.inj hnames
      have hbelow : root <:+ name :: (names ++ root) := List.suffix_append (name :: names) root
      exact ⟨fun _ => visitEntry_of_unsupported (h.linkFree _ hbelow) hsupported hfolder,
        fun _ => visitEntry_of_unsupported (h.linkFree_other _ hbelow) hsupported hfolderOther⟩

/-- An entry at which volumes that look alike hold the same gives the same, if folders do. -/
theorem LooksAlike.visitEntry_of_sameEntry (h : LooksAlike settings root volume other)
    (hpath : path.LeadsDown (names ++ root)) (hagrees : AgreesOnWay volume other (names ++ root))
    (hentry : sameEntry settings volume other (names ++ root) name = true)
    {otherEnter : Path → String → Except ScanFault (List Finding)}
    (henter : settings.isExcluded name.text = false →
      (path.child name).LeadsDown (name :: names ++ root) →
      AgreesOnWay volume other (name :: names ++ root) →
        ∀ childId, enter (path.child name) childId = otherEnter (path.child name) childId) :
    visitEntry codecs volume settings (names ++ root) path id enter name
      = visitEntry codecs other settings (names ++ root) path id otherEnter name := by
  obtain ⟨hincluded, hsame⟩ := Bool.and_eq_true_iff.1 hentry
  have hobject := of_decide_eq_true hsame
  have hexcluded : settings.isExcluded name.text = false := by simpa using hincluded
  have hchild : (path.child name).LeadsDown (name :: names ++ root) := hpath.child name
  have hway : AgreesOnWay volume other (name :: names ++ root) := hagrees.cons hobject
  have hrole : ∀ follow, entryRole volume follow (names ++ root) path name
      = entryRole other follow (names ++ root) path name := fun follow => by
    have hbelow : root <:+ name :: (names ++ root) := List.suffix_append (name :: names) root
    rw [entryRole_eq (h.linkFree _ hbelow), entryRole_eq (h.linkFree_other _ hbelow), hobject]
  have hread := Volume.readText_congr hchild (h.isLinkFreeTo (name :: names)).2 hway
    codecs settings.encoding
  unfold visitEntry
  rw [hrole]
  split
  case isTrue => rfl
  case isFalse =>
    simp only [henter hexcluded hchild hway, visitFile_congr hread]

/-- Visits find the same in volumes that look alike from a root. -/
theorem LooksAlike.visitFolder_congr (h : LooksAlike settings root volume other)
    (entered : List Location) (path : Path) (id : String) :
    ∀ names : List Name, (∀ name ∈ names, settings.isExcluded name.text = false) →
      path.LeadsDown (names ++ root) → AgreesOnWay volume other (names ++ root) →
      visitFolder codecs volume settings entered path id
        = visitFolder codecs other settings entered path id := by
  fun_induction visitFolder codecs volume settings entered path id with
  | case1 entered path id hnull =>
    intro names _ _ _
    rw [visitFolder, if_pos hnull]
  | case2 entered path id hnull hentered =>
    intro names _ hpath hagrees
    rw [Volume.leadsInto_congr hpath (h.isLinkFreeTo names).2 hagrees] at hentered
    rw [visitFolder, if_neg hnull, dif_pos hentered]
  | case3 entered path id hnull hentered fault hopen =>
    intro names _ hpath hagrees
    rw [Volume.leadsInto_congr hpath (h.isLinkFreeTo names).2 hagrees] at hentered
    rw [Volume.openFolder_congr hpath (h.isLinkFreeTo names).2 hagrees] at hopen
    exact (visitFolder_of_error (Bool.eq_false_iff.2 hnull) (Bool.eq_false_iff.2 hentered) hopen
      settings id).symm
  | case4 entered path id hnull hentered location hopen ih =>
    intro names hincluded hpath hagrees
    have hopens : Opens volume entered path location :=
      ⟨Bool.eq_false_iff.2 hnull, Bool.eq_false_iff.2 hentered, hopen⟩
    have hother : Opens other entered path location := by
      refine ⟨hopens.plain, ?_, ?_⟩
      · rw [← Volume.leadsInto_congr hpath (h.isLinkFreeTo names).2 hagrees]
        exact hopens.fresh
      · rw [← Volume.openFolder_congr hpath (h.isLinkFreeTo names).2 hagrees]
        exact hopen
    obtain rfl := (h.isLinkFreeTo names).1.eq_of_locate hpath (Volume.locate_of_openFolder hopen)
    -- entries at which the volumes differ give nothing, and the others are listed alike
    let test := sameEntry settings volume other (names ++ root)
    have hskip := fun name (hname : test name = false) =>
      h.visitEntry_of_not_sameEntry codecs path id hincluded hname
    have hlisted : (volume.sortedNames (names ++ root)).filter test
        = (other.sortedNames (names ++ root)).filter test := by
      refine Volume.filter_sortedNames_congr fun name hname => ?_
      rw [Volume.mem_namesIn_iff, Volume.mem_namesIn_iff,
        of_decide_eq_true (Bool.and_eq_true_iff.1 hname).2]
    rw [visitFolder_of_opens hother,
      visitEntries_filter _ fun name _ hname => (hskip name hname).1 _,
      visitEntries_filter (other.sortedNames _) fun name _ hname => (hskip name hname).2 _, hlisted]
    refine visitEntries_congr fun name hname => ?_
    refine h.visitEntry_of_sameEntry hpath hagrees (List.mem_filter.1 hname).2 ?_
    intro hname hchild hway childId
    -- the volumes agree on the way to the folder, so the induction goes on below it
    exact ih _ childId (name :: names) (List.forall_mem_cons.2 ⟨hname, hincluded⟩) hchild hway

theorem walkStart_congr {path : Path} (h : path.isAbsolute = true) (volume other : Volume) :
    walkStart volume path = walkStart other path := by
  rw [walkStart, walkStart, Path.absolute, Path.absolute, if_pos h, if_pos h]

/-- Walks give the same in volumes that look alike from the root. -/
theorem LooksAlike.walk_congr (h : LooksAlike settings root volume other)
    (habsolute : path.isAbsolute = true) (hpath : (walkStart volume path).LeadsDown root) :
    walk codecs volume settings path = walk codecs other settings path :=
  (walk_eq_of_visitFolder_eq (walkStart_congr habsolute other volume)
    (h.visitFolder_congr [] _ _ [] (fun _ hname => absurd hname List.not_mem_nil) hpath
      h.above).symm).symm

end

end SourceOutline
