import SourceOutline.Proofs.Repository.Locality
import SourceOutline.Proofs.Volume.Layout

set_option autoImplicit false

/-! # Two walks of one layout

Walks of two volumes of one layout go the same way: they go into the same folders, in the same
order, and read the same files. So they differ in nothing but what is found in files, and a relation
that a visit passes on from its parts to the whole (`IsPassedOn`) holds of the two if it holds of
what is found in each file (`SameLayout.visitFolder_related`).

With equality for the relation this gives that it makes no difference in which order folders list
their entries (`walk_of_perm`): the names are sorted before anything else is done with them, and no
two entries of a folder have one name. -/

namespace SourceOutline

variable {codecs : Codecs}

/-! ## Relations between visits -/

/-- A relation between what two visits give that is passed on from parts of a visit to the whole. -/
structure IsPassedOn
    (R : Except ScanFault (List Finding) → Except ScanFault (List Finding) → Prop) : Prop where
  refl : ∀ visit, R visit visit
  node : ∀ {one other} (node : Node), R one other →
    R (one.map (.node node :: ·)) (other.map (.node node :: ·))
  append : ∀ {one other rest others}, R one other → R rest others →
    R (one >>= fun first => rest.map (first ++ ·))
      (other >>= fun first => others.map (first ++ ·))

theorem isPassedOn_eq : IsPassedOn Eq where
  refl _ := rfl
  node _ h := by rw [h]
  append h hrest := by rw [h, hrest]

section

variable {volume before after : Volume} {settings : Settings} {location : Location} {path : Path}
  {name : Name} {id : String}
  {R : Except ScanFault (List Finding) → Except ScanFault (List Finding) → Prop}

theorem visitEntries_cons (visit : Name → Except ScanFault (List Finding)) (name : Name)
    (rest : List Name) : visitEntries visit (name :: rest)
      = visit name >>= fun first => (visitEntries visit rest).map (first ++ ·) := by
  rw [visitEntries]
  refine congrArg (visit name >>= ·) (funext fun first => ?_)
  cases visitEntries visit rest <;> rfl

/-- A relation that is passed on holds of sequences of entries if it holds of each. -/
theorem IsPassedOn.entries (hR : IsPassedOn R)
    {visit other : Name → Except ScanFault (List Finding)} {names : List Name}
    (h : ∀ name ∈ names, R (visit name) (other name)) :
    R (visitEntries visit names) (visitEntries other names) := by
  induction names with
  | nil => exact hR.refl _
  | cons name rest ih =>
    obtain ⟨hname, hrest⟩ := List.forall_mem_cons.1 h
    rw [visitEntries_cons, visitEntries_cons]
    exact hR.append hname (ih hrest)

namespace SameLayout

variable (h : SameLayout before after)

include h

theorem sortedNames (location : Location) :
    after.sortedNames location = before.sortedNames location := by
  have hnames : ∀ name, name ∈ after.namesIn location ↔ name ∈ before.namesIn location := by
    intro name
    rw [Volume.mem_namesIn_iff, Volume.mem_namesIn_iff]
    obtain hsame | ⟨_, _, _, hbefore, hafter⟩ := h.objects (name :: location)
    · rw [hsame]
    · rw [hbefore, hafter]
      exact iff_of_true rfl rfl
  have hfilter : (after.sortedNames location).filter (fun _ => true)
      = (before.sortedNames location).filter fun _ => true :=
    Volume.filter_sortedNames_congr fun name _ => hnames name
  rwa [List.filter_eq_self.2 fun _ _ => rfl, List.filter_eq_self.2 fun _ _ => rfl] at hfilter

theorem role (location : Location) :
    (after.object? location).map Object.role = (before.object? location).map Object.role := by
  obtain hsame | ⟨_, _, _, hbefore, hafter⟩ := h.objects location
  · rw [hsame]
  · rw [hbefore, hafter]
    rfl

theorem entryRole_eq (follow : Bool) (location : Location) (path : Path) (name : Name) :
    entryRole after follow location path name = entryRole before follow location path name := by
  have hlink : linkRole after follow (path.child name)
      = linkRole before follow (path.child name) := by
    simp only [linkRole, h.locate, h.role]
  rw [entryRole, entryRole, hlink]
  obtain hsame | ⟨_, _, _, hbefore, hafter⟩ := h.objects (name :: location)
  · rw [hsame]
  · rw [hbefore, hafter]
    rfl

theorem isFolderEntry_iff :
    IsFolderEntry after settings location path name
      ↔ IsFolderEntry before settings location path name :=
  ⟨fun hin => ⟨hin.included, h.entryRole_eq _ _ _ _ ▸ hin.role⟩,
    fun hin => ⟨hin.included, h.entryRole_eq _ _ _ _ ▸ hin.role⟩⟩

theorem isFileEntry_iff :
    IsFileEntry after settings location path name
      ↔ IsFileEntry before settings location path name :=
  ⟨fun hin => ⟨hin.included, h.entryRole_eq _ _ _ _ ▸ hin.role, hin.supported⟩,
    fun hin => ⟨hin.included, h.entryRole_eq _ _ _ _ ▸ hin.role, hin.supported⟩⟩

theorem opens_iff {entered : List Location} :
    Opens after entered path location ↔ Opens before entered path location :=
  ⟨fun hin => ⟨hin.plain, h.leadsInto _ _ ▸ hin.fresh, h.openFolder _ ▸ hin.opened⟩,
    fun hin => ⟨hin.plain, h.leadsInto _ _ ▸ hin.fresh, h.openFolder _ ▸ hin.opened⟩⟩

/-- What two visits give at an entry is related if it is so in files and in folders. -/
theorem visitEntry_related (hR : IsPassedOn R)
    {enter other : Path → String → Except ScanFault (List Finding)}
    (hfile : R (visitFile codecs before settings (path.child name) name id)
      (visitFile codecs after settings (path.child name) name id))
    (henter : ∀ childId, R (enter (path.child name) childId) (other (path.child name) childId)) :
    R (visitEntry codecs before settings location path id enter name)
      (visitEntry codecs after settings location path id other name) := by
  unfold visitEntry
  rw [h.entryRole_eq]
  split
  case isTrue => exact hR.refl _
  case isFalse =>
    cases entryRole before settings.followLinks.isTrue location path name with
    | failed reason => exact hR.refl _
    | ignored => exact hR.refl _
    | folder => exact hR.node _ (henter _)
    | file =>
      cases settings.isSupported name.text with
      | error fault => exact hR.refl _
      | ok supported =>
        cases supported with
        | true => exact hfile
        | false => exact hR.refl _

/-- What two visits give in a folder is related if it is so in the files below a path above it. -/
theorem visitFolder_related (hR : IsPassedOn R) {start : Path}
    (hfile : ∀ names name id,
      R (visitFile codecs before settings (start.below names) name id)
        (visitFile codecs after settings (start.below names) name id))
    (entered : List Location) (path : Path) (id : String) :
    ∀ names, path = start.below names →
      R (visitFolder codecs before settings entered path id)
        (visitFolder codecs after settings entered path id) := by
  fun_induction visitFolder codecs before settings entered path id with
  | case1 entered path id hnull =>
    intro names _
    rw [visitFolder, if_pos hnull]
    exact hR.refl _
  | case2 entered path id hnull hentered =>
    intro names _
    rw [visitFolder, if_neg hnull, dif_pos (h.leadsInto _ _ ▸ hentered)]
    exact hR.refl _
  | case3 entered path id hnull hentered fault hopen =>
    intro names _
    rw [visitFolder_of_error (Bool.eq_false_iff.2 hnull)
      (h.leadsInto _ _ ▸ Bool.eq_false_iff.2 hentered) (h.openFolder _ ▸ hopen)]
    exact hR.refl _
  | case4 entered path id hnull hentered location hopen ih =>
    rintro names rfl
    have hopens : Opens before entered (start.below names) location :=
      ⟨Bool.eq_false_iff.2 hnull, Bool.eq_false_iff.2 hentered, hopen⟩
    rw [visitFolder_of_opens (h.opens_iff.2 hopens), h.sortedNames]
    refine hR.entries fun name _ => h.visitEntry_related hR ?_ fun childId => ?_
    · rw [Path.child_below]
      exact hfile _ _ _
    · exact ih _ childId (names ++ [name]) (Path.child_below _ _ _)

theorem reads {entered : List Location} {file : Path}
    (hreads : Reads before settings entered path file) :
    Reads after settings entered path file := by
  induction hreads with
  | direct hopens hname hread =>
    refine .direct (h.opens_iff.2 hopens) ?_ (h.isFileEntry_iff.2 hread)
    rwa [← Volume.mem_sortedNames, h.sortedNames, Volume.mem_sortedNames]
  | deeper hopens hname hfolder _ ih =>
    refine .deeper (h.opens_iff.2 hopens) ?_ (h.isFolderEntry_iff.2 hfolder) ih
    rwa [← Volume.mem_sortedNames, h.sortedNames, Volume.mem_sortedNames]

theorem reads_iff {entered : List Location} {file : Path} :
    Reads after settings entered path file ↔ Reads before settings entered path file :=
  ⟨h.symm.reads, h.reads⟩

theorem walkStart_eq (root : Path) : walkStart after root = walkStart before root := by
  rw [walkStart, walkStart, h.working]

end SameLayout

end

/-! ## The order in which folders list their entries -/

/-- Two volumes that hold the same objects, whatever the order in which each folder lists its
    entries, are walked alike: the walks give the same nodes, edges and skipped entries in the same
    order, or fail with the same fault. -/
theorem walk_of_perm {volume other : Volume} (hworking : other.working = volume.working)
    (hentries : other.entries.Perm volume.entries) (codecs : Codecs) (settings : Settings)
    (root : Path) :
    walk codecs other settings root = walk codecs volume settings root := by
  have hlayout := SameLayout.of_perm hworking hentries
  have hobject := Volume.object?_of_perm hentries
  -- the same is read in every file, so the same is found in every folder
  have hfile : ∀ names name id,
      visitFile codecs volume settings ((walkStart volume root).below names) name id
        = visitFile codecs other settings ((walkStart volume root).below names) name id := by
    intro names name id
    exact visitFile_congr (hlayout.readText (fun found _ => hobject found) _).symm name id
  exact walk_eq_of_visitFolder_eq (hlayout.walkStart_eq root)
    (hlayout.visitFolder_related isPassedOn_eq hfile [] _ _ [] (Path.below_nil _).symm).symm

/-- A repository with a folder and two files. -/
def listedRepository : Volume where
  entries :=
    [([repositoryName], .folder true), ([⟨"lib", by decide⟩, repositoryName], .folder true),
     ([sourceName, ⟨"lib", by decide⟩, repositoryName], .file [] true),
     ([⟨"main.py", by decide⟩, ⟨"lib", by decide⟩, repositoryName], .file [0xFF] true),
     ([sourceName, repositoryName], .file [] true)]
  distinct := by decide
  plain := by decide

/-- The same repository, where both folders list their entries the other way round. -/
def relistedRepository : Volume where
  entries := listedRepository.entries.reverse
  distinct := by decide
  plain := by decide

/-- The two are walked alike, though they are listed differently. -/
theorem walk_relistedRepository :
    relistedRepository.namesIn [repositoryName] ≠ listedRepository.namesIn [repositoryName] ∧
    relistedRepository.working = listedRepository.working ∧
    relistedRepository.entries.Perm listedRepository.entries ∧
    ∃ result, walk Encoding.codecs listedRepository {} (Path.ofText "/repo") = .ok result ∧
      walk Encoding.codecs relistedRepository {} (Path.ofText "/repo") = .ok result := by
  have hworking : relistedRepository.working = listedRepository.working := rfl
  have hentries : relistedRepository.entries.Perm listedRepository.entries :=
    List.reverse_perm _
  have hsame := walk_of_perm hworking hentries Encoding.codecs {} (Path.ofText "/repo")
  obtain ⟨result, hwalk⟩ := exists_walk_default_eq_ok listedRepository
    (show (walkStart listedRepository (Path.ofText "/repo")).hasNull = false by decide +kernel)
  exact ⟨by decide, hworking, hentries, result, hwalk, hsame.trans hwalk⟩

end SourceOutline
