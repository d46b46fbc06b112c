import SourceOutline.Proofs.Repository.Reading
import SourceOutline.Proofs.Repository.Tree
import SourceOutline.Text.Encoding

set_option autoImplicit false

/-! # When a walk returns

A walk takes whatever it meets: what cannot be opened, read or decoded is skipped, and the nodes of
everything else make a tree. It fails only if its root is written with a null character or if it
reads a file that stops a scan. Which files it reads is told by `Reads`, which follows the walk from
folder to folder. The main statement holds for any volume and any root. Of the settings it asks that
the extensions are something that texts can be looked up in, the number of snippet lines is whole,
and the name of the encoding is known. -/

namespace SourceOutline

variable {codecs : Codecs}

/-! ## The files that are read -/

/-- A visit of the folder at a path, while others are being visited, goes into a location. -/
structure Opens (volume : Volume) (entered : List Location) (path : Path) (location : Location) :
    Prop where
  plain : path.hasNull = false
  fresh : volume.leadsInto path entered = false
  opened : volume.openFolder path = .ok location

/-- A visit of the folder at a path, while others are being visited, reads a file. -/
inductive Reads (volume : Volume) (settings : Settings) : List Location → Path → Path → Prop
  | direct {entered : List Location} {path : Path} {location : Location} {name : Name}
      (hopens : Opens volume entered path location) (hname : name ∈ volume.namesIn location)
      (hfile : IsFileEntry volume settings location path name) :
      Reads volume settings entered path (path.child name)
  | deeper {entered : List Location} {path file : Path} {location : Location} {name : Name}
      (hopens : Opens volume entered path location) (hname : name ∈ volume.namesIn location)
      (hfolder : IsFolderEntry volume settings location path name)
      (hreads : Reads volume settings (location :: entered) (path.child name) file) :
      Reads volume settings entered path file

/-! ## When a visit succeeds -/

section Visit

variable {volume : Volume} {settings : Settings} {decode : Decoder} {encodingText : String}
  {path : Path}
  (hextensions : ∀ suffix, ∃ held, settings.extensions.holds suffix = .ok held)
  (hwhole : ∀ x, settings.snippetLines ≠ .real x)
  (hname : encodingName settings.encoding = .ok encodingText)
  (hdecoder : codecs.decoder encodingText = .ok decode)

include hwhole hname hdecoder

theorem exists_visitFile_eq_ok_iff (hnull : path.hasNull = false) (name : Name)
    (parentId : String) :
    (∃ found, visitFile codecs volume settings path name parentId = .ok found) ↔
      ¬ IsRefused volume decode path := by
  rw [← exists_scanFile_eq_ok_iff settings.scanOptions hwhole hname hdecoder hnull
    (fileId path.text)]
  constructor
  · rintro ⟨found, hfound⟩
    obtain ⟨scan, hscan, -⟩ := bind_eq_ok_iff.1 hfound
    exact ⟨scan, hscan⟩
  · rintro ⟨scan, hscan⟩
    exact ⟨_, bind_eq_ok_iff.2 ⟨scan, hscan, rfl⟩⟩

include hextensions

/-- The visit of an entry succeeds unless it is a file that is refused or a folder in which the
    visit fails. -/
theorem exists_visitEntry_eq_ok_iff {name : Name} (hnull : (path.child name).hasNull = false)
    (volume : Volume) (location : Location) (id : String)
    (enter : Path → String → Except ScanFault (List Finding)) :
    (∃ found, visitEntry codecs volume settings location path id enter name = .ok found) ↔
      (IsFileEntry volume settings location path name →
        ¬ IsRefused volume decode (path.child name)) ∧
      (IsFolderEntry volume settings location path name →
        ∃ below, enter (path.child name) (folderId (path.child name).text) = .ok below) := by
  by_cases hfolder : IsFolderEntry volume settings location path name
  · have hfile : ¬ IsFileEntry volume settings location path name := fun hfile =>
      absurd (hfolder.role.symm.trans hfile.role) (by decide)
    rw [visitEntry_of_isFolderEntry hfolder]
    constructor
    · rintro ⟨found, hfound⟩
      obtain ⟨below, hbelow, -⟩ := map_eq_ok_iff.1 hfound
      exact ⟨fun h => absurd h hfile, fun _ => ⟨below, hbelow⟩⟩
    · rintro ⟨-, henter⟩
      obtain ⟨below, hbelow⟩ := henter hfolder
      exact ⟨_, map_eq_ok_iff.2 ⟨below, hbelow, rfl⟩⟩
  by_cases hfile : IsFileEntry volume settings location path name
  · rw [visitEntry_of_isFileEntry hfile, exists_visitFile_eq_ok_iff hwhole hname hdecoder hnull]
    exact ⟨fun h => ⟨fun _ => h, fun hin => absurd hin hfolder⟩, fun h => h.1 hfile⟩
  refine iff_of_true ?_ ⟨fun h => absurd h hfile, fun h => absurd h hfolder⟩
  rcases visitEntry_of_neither hfolder hfile with ⟨fault, hsupported, -⟩ | hempty | ⟨_, -, hskip⟩
  · obtain ⟨held, hheld⟩ := hextensions (lowercase (Path.ofText name.text).suffix)
    cases hsupported.symm.trans hheld
  · exact ⟨_, hempty⟩
  · exact ⟨_, hskip⟩

/-- The visit of a folder succeeds if and only if it reads no file that is refused. -/
theorem exists_visitFolder_eq_ok_iff (volume : Volume) (entered : List Location) (path : Path)
    (id : String) (habsolute : path.isAbsolute = true) (hplain : path.hasNull = false) :
    (∃ found, visitFolder codecs volume settings entered path id = .ok found) ↔
      ∀ file, Reads volume settings entered path file → ¬ IsRefused volume decode file := by
  fun_induction visitFolder codecs volume settings entered path id with
  | case1 entered path id hnull => exact absurd hnull (Bool.eq_false_iff.1 hplain)
  | case2 entered path id hnull hentered =>
    refine iff_of_true ⟨_, rfl⟩ fun file hreads => ?_
    cases hreads with
    | direct hopens => exact absurd hentered (Bool.eq_false_iff.1 hopens.fresh)
    | deeper hopens => exact absurd hentered (Bool.eq_false_iff.1 hopens.fresh)
  | case3 entered path id hnull hentered fault hopen =>
    refine iff_of_true ⟨_, rfl⟩ fun file hreads => ?_
    cases hreads with
    | direct hopens => cases hopen.symm.trans hopens.opened
    | deeper hopens => cases hopen.symm.trans hopens.opened
  | case4 entered path id hnull hentered location hopen ih =>
    have hchild : ∀ name ∈ volume.namesIn location, (path.child name).hasNull = false :=
      fun name hmem => Path.hasNull_child hplain (Volume.hasNull_of_mem_namesIn hmem)
    have hentry := fun name (hmem : name ∈ volume.namesIn location) =>
      exists_visitEntry_eq_ok_iff hextensions hwhole hname hdecoder (hchild name hmem) volume
        location id fun child childId =>
          visitFolder codecs volume settings (location :: entered) child childId
    rw [exists_visitEntries_eq_ok_iff]
    constructor
    · -- a file that is read is an entry of this folder, or is read in one of its entries
      intro hall file hreads
      cases hreads with
      | direct hopens hmem hfile =>
        obtain rfl := Except.ok.inj (hopen.symm.trans hopens.opened)
        exact ((hentry _ hmem).1 (hall _ (Volume.mem_sortedNames.2 hmem))).1 hfile
      | deeper hopens hmem hfolder hreads =>
        obtain rfl := Except.ok.inj (hopen.symm.trans hopens.opened)
        have hbelow := ((hentry _ hmem).1 (hall _ (Volume.mem_sortedNames.2 hmem))).2 hfolder
        exact (ih (path.child _) _ habsolute (hchild _ hmem)).1 hbelow file hreads
    · intro hreads name hsorted
      have hmem := Volume.mem_sortedNames.1 hsorted
      have hopens : Opens volume entered path location :=
        ⟨hplain, Bool.eq_false_iff.2 hentered, hopen⟩
      refine (hentry name hmem).2 ⟨fun hfile => hreads _ (.direct hopens hmem hfile), ?_⟩
      intro hfolder
      exact (ih (path.child name) _ habsolute (hchild name hmem)).2 fun file hfile =>
        hreads file (.deeper hopens hmem hfolder hfile)

end Visit

/-! ## When a walk succeeds -/

section Walk

variable {volume : Volume} {settings : Settings} {root : Path}

/-- The result of a walk from a path below which some findings are made. -/
def WalkResult.ofFound (start : Path) (found : List Finding) : WalkResult where
  snapshot := (GraphBuilder.ofNodes (rootNode start :: found.filterMap Finding.node?)).build
  skipped := found.filterMap Finding.skipped?

/-- The builder takes all nodes of a walk, and they make a tree. -/
theorem walk_eq_of_visitFolder {found : List Finding}
    (h : visitFolder codecs volume settings [] (walkStart volume root)
      (rootNode (walkStart volume root)).id = .ok found) :
    walk codecs volume settings root = .ok (WalkResult.ofFound (walkStart volume root) found) ∧
      (WalkResult.ofFound (walkStart volume root) found).snapshot.IsTree
        (rootNode (walkStart volume root)) := by
  have habsolute := isAbsolute_walkStart volume root
  have hself : IsIdAt (walkStart volume root).text (rootNode (walkStart volume root)).id := .folder
  have hnone : ∀ other ∈ [(rootNode (walkStart volume root)).id],
      ¬ IsIdBelow (walkStart volume root) other := by
    intro other hother
    rw [List.mem_singleton.1 hother]
    exact hself.not_isIdBelow habsolute
  have hfollows := (grows_visitFolder [] _ _ _ found h habsolute List.mem_cons_self hnone).follows
  have hfindings : findings codecs volume settings (walkStart volume root)
      = .ok (.node (rootNode (walkStart volume root)) :: found) :=
    bind_eq_ok_iff.2 ⟨found, h, rfl⟩
  have hextend := GraphBuilder.extend_root rfl rfl hfollows
  refine ⟨?_, GraphBuilder.isTree_build rfl rfl hfollows⟩
  unfold WalkResult.ofFound
  rw [walkStart] at hfindings hextend ⊢
  simp only [walk, hfindings, mapError_ok, bind, Except.bind, List.filterMap_cons, Finding.node?,
    Finding.skipped?, hextend]
  rfl

theorem walk_of_visitFolder {found : List Finding}
    (h : visitFolder codecs volume settings [] (walkStart volume root)
      (rootNode (walkStart volume root)).id = .ok found) :
    ∃ result, walk codecs volume settings root = .ok result ∧
      result.snapshot.IsTree (rootNode (walkStart volume root)) :=
  ⟨_, walk_eq_of_visitFolder h⟩

theorem walk_of_visitFolder_error {fault : ScanFault}
    (h : visitFolder codecs volume settings [] (walkStart volume root)
      (rootNode (walkStart volume root)).id = .error fault) :
    walk codecs volume settings root = .error (.scan fault) := by
  have hfindings : findings codecs volume settings (walkStart volume root) = .error fault := by
    simp only [findings]
    exact congrArg (· >>= _) h
  rw [walkStart] at hfindings
  simp only [walk, hfindings, mapError_error, bind, Except.bind]

/-- Walks that start at one path give the same if the visits of their root do. -/
theorem walk_eq_of_visitFolder_eq {other : Volume}
    (hstart : walkStart other root = walkStart volume root)
    (h : visitFolder codecs other settings [] (walkStart volume root)
        (rootNode (walkStart volume root)).id
      = visitFolder codecs volume settings [] (walkStart volume root)
        (rootNode (walkStart volume root)).id) :
    walk codecs other settings root = walk codecs volume settings root := by
  have hfindings : findings codecs other settings (walkStart volume root)
      = findings codecs volume settings (walkStart volume root) := congrArg (· >>= _) h
  rw [walkStart, walkStart] at hstart
  rw [walkStart] at hfindings
  rw [walk, walk, hstart, hfindings]

theorem exists_walk_eq_ok_iff :
    (∃ result, walk codecs volume settings root = .ok result) ↔
      ∃ found, visitFolder codecs volume settings [] (walkStart volume root)
        (rootNode (walkStart volume root)).id = .ok found := by
  cases hfound : visitFolder codecs volume settings [] (walkStart volume root)
      (rootNode (walkStart volume root)).id with
  | error fault =>
    rw [walk_of_visitFolder_error hfound]
    exact iff_of_false nofun nofun
  | ok found => exact iff_of_true ⟨_, (walk_eq_of_visitFolder hfound).1⟩ ⟨found, rfl⟩

theorem walk_of_hasNull (h : (walkStart volume root).hasNull = true) :
    walk codecs volume settings root = .error (.scan (.read (.file .nullCharacter))) := by
  refine walk_of_visitFolder_error ?_
  unfold visitFolder
  rw [if_pos h]

/-- With the default settings a walk returns if its root is written without a null character. -/
theorem exists_walk_default_eq_ok (volume : Volume) {root : Path}
    (hplain : (walkStart volume root).hasNull = false) :
    ∃ result, walk codecs volume {} root = .ok result := by
  have hwhole : ∀ x, ({} : Settings).snippetLines ≠ .real x := nofun
  have hname : encodingName ({} : Settings).encoding = .ok "utf-8" := by decide +kernel
  exact exists_walk_eq_ok_iff.2 ((exists_visitFolder_eq_ok_iff (fun _ => ⟨_, rfl⟩) hwhole hname
    codecs.decoder_utf8 volume [] _ _ (isAbsolute_walkStart volume root) hplain).2
    fun file _ => not_isRefused_utf8 volume file)

/-- A walk returns if and only if its root is written without a null character and it reads no file
    that stops a scan. Whenever it returns, its graph is a tree below the node of its root, and it
    never fails because the builder refuses a node. -/
theorem walk_returns_iff
    (hextensions : ∀ suffix, ∃ held, settings.extensions.holds suffix = .ok held)
    (hwhole : ∀ x, settings.snippetLines ≠ .real x) {encodingText : String} {decode : Decoder}
    (hname : encodingName settings.encoding = .ok encodingText)
    (hdecoder : codecs.decoder encodingText = .ok decode) (volume : Volume) (root : Path) :
    ((∃ result, walk codecs volume settings root = .ok result) ↔
      (walkStart volume root).hasNull = false ∧
        ∀ file, Reads volume settings [] (walkStart volume root) file →
          ¬ IsRefused volume decode file) ∧
    (∀ result, walk codecs volume settings root = .ok result →
      result.snapshot.IsTree (rootNode (walkStart volume root))) ∧
    ∀ fault, walk codecs volume settings root ≠ .error (.build fault) := by
  have habsolute := isAbsolute_walkStart volume root
  by_cases hnull : (walkStart volume root).hasNull = true
  · rw [walk_of_hasNull hnull]
    exact ⟨iff_of_false nofun fun h => Bool.eq_false_iff.1 h.1 hnull, nofun, nofun⟩
  have hplain := Bool.eq_false_iff.2 hnull
  have hvisit := exists_visitFolder_eq_ok_iff hextensions hwhole hname hdecoder volume []
    (walkStart volume root) (rootNode (walkStart volume root)).id habsolute hplain
  -- the walk ends in the way that the visit of its root does
  rw [and_iff_right hplain, ← hvisit]
  cases hfound : visitFolder codecs volume settings [] (walkStart volume root)
      (rootNode (walkStart volume root)).id with
  | error fault =>
    rw [walk_of_visitFolder_error hfound]
    exact ⟨iff_of_false nofun nofun, nofun, nofun⟩
  | ok found =>
    obtain ⟨result, hresult, htree⟩ := walk_of_visitFolder hfound
    rw [hresult]
    refine ⟨iff_of_true ⟨result, rfl⟩ ⟨found, rfl⟩, fun other hother => ?_, nofun⟩
    rw [← Except.ok.inj hother]
    exact htree

end Walk

/-! ## A file without a mark -/

/-- A repository with one file of ASCII text. -/
def plainRepository : Volume where
  entries :=
    [([⟨"repo", by decide⟩], .folder true),
     ([⟨"a.py", by decide⟩, ⟨"repo", by decide⟩], .file (encodeUtf8 "x = 1\n".toList) true)]
  distinct := by decide
  plain := by decide

/-- The name of its folder. -/
def repositoryName : Name := ⟨"repo", by decide⟩

/-- The name of its file. -/
def sourceName : Name := ⟨"a.py", by decide⟩

/-- The default settings are met, so the walk of this repository returns a tree. -/
theorem walk_plainRepository_returns :
    (∀ suffix, ∃ held, ({} : Settings).extensions.holds suffix = .ok held) ∧
    (∀ x, ({} : Settings).snippetLines ≠ .real x) ∧
    encodingName ({} : Settings).encoding = .ok "utf-8" ∧
    Encoding.codecs.decoder "utf-8" = .ok utf8Decoder ∧
    ∃ result, walk Encoding.codecs plainRepository {} (Path.ofText "/repo") = .ok result ∧
      result.snapshot.IsTree (rootNode (walkStart plainRepository (Path.ofText "/repo"))) := by
  have hextensions : ∀ suffix, ∃ held, ({} : Settings).extensions.holds suffix = .ok held :=
    fun suffix => ⟨_, rfl⟩
  have hwhole : ∀ x, ({} : Settings).snippetLines ≠ .real x := nofun
  have hname : encodingName ({} : Settings).encoding = .ok "utf-8" := by decide +kernel
  have hdecoder := Encoding.codecs.decoder_utf8
  obtain ⟨hreturns, htree, -⟩ := walk_returns_iff hextensions hwhole hname hdecoder
    plainRepository (Path.ofText "/repo")
  obtain ⟨result, hresult⟩ := hreturns.2
    ⟨by decide +kernel, fun file _ => not_isRefused_utf8 plainRepository file⟩
  exact ⟨hextensions, hwhole, hname, hdecoder, result, hresult, htree result hresult⟩

/-- In UTF-16 the walk of the same repository fails at its file, though the encoding is known. -/
theorem walk_plainRepository_utf16 :
    encodingName (.text "utf-16") = .ok "utf-16" ∧
    Encoding.codecs.decoder "utf-16" = .ok Encoding.markedUtf16.decode ∧
    walk Encoding.codecs plainRepository { encoding := .text "utf-16" } (Path.ofText "/repo")
      = .error (.scan (.read (.decoding .missingMark))) :=
  ⟨by decide +kernel, Encoding.decoder_codecs (by decide +kernel), by decide +kernel⟩

end SourceOutline
