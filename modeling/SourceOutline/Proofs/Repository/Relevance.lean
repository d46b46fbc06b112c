import SourceOutline.Proofs.Repository.Freshness
import SourceOutline.Proofs.Repository.PathReports
import SourceOutline.Proofs.Volume.Meeting

set_option autoImplicit false

/-! # Changes that are not relevant

A watcher judges a change by the path of the entry that has changed. A walk may come to the same
entry by other paths, when links lead there, and it takes a link for what it leads to. A change of
an entry that is out of the way of the walk and not relevant leaves the snapshot as it is, or the
fault with which the walk fails (`snapshot_eq_of_not_isRelevant`). Where a link leads to the entry,
a change that is not relevant may alter the snapshot (`snapshot_linkedRepository_data`). -/

namespace SourceOutline

variable {codecs : Codecs}

/-! ## Findings that are nodes -/

/-- The findings without what was skipped. -/
def nodeFindings (found : List Finding) : List Finding :=
  found.filter fun finding => finding.node?.isSome

theorem filterMap_nodeFindings (found : List Finding) :
    (nodeFindings found).filterMap Finding.node? = found.filterMap Finding.node? := by
  rw [nodeFindings, List.filterMap_filter]
  congr 1
  funext finding
  cases finding <;> rfl

theorem map_nodeFindings_map_cons (below : Except ScanFault (List Finding)) (node : Node) :
    (below.map (.node node :: ·)).map nodeFindings
      = (below.map nodeFindings).map (.node node :: ·) := by
  cases below <;> rfl

theorem map_nodeFindings_visitEntries (visit : Name → Except ScanFault (List Finding))
    (names : List Name) :
    (visitEntries visit names).map nodeFindings
      = visitEntries (fun name => (visit name).map nodeFindings) names := by
  induction names with
  | nil => rfl
  | cons name rest ih =>
    rw [visitEntries, visitEntries, ← ih]
    cases visit name with
    | error fault => rfl
    | ok first =>
      cases visitEntries visit rest with
      | error fault => rfl
      | ok others => exact congrArg Except.ok (List.filter_append first others)

section

variable {volume other : Volume} {settings : Settings} {location : Location} {path : Path}
  {name : Name} {id : String} {enter otherEnter : Path → String → Except ScanFault (List Finding)}

theorem map_nodeFindings_visitEntry_of_unsupported
    (hsupported : settings.isSupported name.text = .ok false)
    (hfolder : ¬ IsFolderEntry volume settings location path name) :
    (visitEntry codecs volume settings location path id enter name).map nodeFindings = .ok [] := by
  have hfile : ¬ IsFileEntry volume settings location path name := fun hfile =>
    nomatch hsupported.symm.trans hfile.supported
  rcases visitEntry_of_neither hfolder hfile with ⟨fault, hfault, -⟩ | hempty | ⟨_, -, hskip⟩
  · exact nomatch hsupported.symm.trans hfault
  · rw [hempty]
    rfl
  · rw [hskip]
    rfl

/-- Entries with the same role, and the same text if they are read, give the same nodes if folders
    do. -/
theorem map_nodeFindings_visitEntry_congr
    (hrole : entryRole other settings.followLinks.isTrue location path name
      = entryRole volume settings.followLinks.isTrue location path name)
    (hread : readText codecs other settings.encoding (path.child name)
      = readText codecs volume settings.encoding (path.child name))
    (henter : IsFolderEntry volume settings location path name → ∀ childId,
      (enter (path.child name) childId).map nodeFindings
        = (otherEnter (path.child name) childId).map nodeFindings) :
    (visitEntry codecs volume settings location path id enter name).map nodeFindings
      = (visitEntry codecs other settings location path id otherEnter name).map nodeFindings := by
  by_cases hfolder : IsFolderEntry volume settings location path name
  · have hother : IsFolderEntry other settings location path name :=
      ⟨hfolder.included, hrole.trans hfolder.role⟩
    rw [visitEntry_of_isFolderEntry hfolder, visitEntry_of_isFolderEntry hother,
      map_nodeFindings_map_cons, map_nodeFindings_map_cons, henter hfolder]
  · rw [visitEntry_of_not_isFolderEntry hfolder id enter otherEnter]
    unfold visitEntry
    rw [hrole]
    simp only [visitFile_congr hread]

end

/-! ## Visits that take nothing from a place -/

/-- A visit of the folder at a path takes no nodes from a place, before or after a change there: the
    entries that it comes to and whose ways meet the place are not supported and no folders to the
    walk, unless they are excluded. -/
def TakesNothing (before after : Volume) (settings : Settings) (place : Location)
    (entered : List Location) (path : Path) : Prop :=
  ∀ names location within name, Descends before settings entered path names location within →
    settings.isExcluded name.text = false →
      before.Meets ((path.below names).child name) place →
        settings.isSupported name.text = .ok false ∧
          ¬ IsFolderIn before settings (path.below names) name ∧
            ¬ IsFolderIn after settings (path.below names) name

section

variable {before after : Volume} {settings : Settings} {place location : Location}
  {entered : List Location} {path : Path} {name : Name} {id : String}

/-- An entry whose path meets the place gives no nodes in either volume. -/
theorem TakesNothing.map_nodeFindings_visitEntry
    (h : TakesNothing before after settings place entered path)
    (hopens : Opens before entered path location) (hother : Opens after entered path location)
    (hentry : before.Meets (path.child name) place) (codecs : Codecs) (id : String) :
    (∀ enter,
      (visitEntry codecs before settings location path id enter name).map nodeFindings = .ok []) ∧
    ∀ enter, (visitEntry codecs after settings location path id enter name).map nodeFindings
      = .ok [] := by
  by_cases hexcluded : settings.isExcluded name.text = true
  · exact ⟨fun enter => congrArg _ (visitEntry_of_isExcluded hexcluded),
      fun enter => congrArg _ (visitEntry_of_isExcluded hexcluded)⟩
  · have hself := h [] location entered name (.here hopens) (Bool.eq_false_iff.2 hexcluded)
    rw [Path.below_nil] at hself
    obtain ⟨hsupported, hbefore, hafter⟩ := hself hentry
    exact ⟨fun enter => map_nodeFindings_visitEntry_of_unsupported hsupported fun hfolder =>
        hbefore ((isFolderEntry_iff hopens.opened).1 hfolder).2,
      fun enter => map_nodeFindings_visitEntry_of_unsupported hsupported fun hfolder =>
        hafter ((isFolderEntry_iff hother.opened).1 hfolder).2⟩

theorem TakesNothing.child (h : TakesNothing before after settings place entered path)
    (hopens : Opens before entered path location) (hname : name ∈ before.namesIn location)
    (hfolder : IsFolderEntry before settings location path name) :
    TakesNothing before after settings place (location :: entered) (path.child name) := by
  intro names found within last hdescends hincluded hmeets
  rw [← Path.below_cons] at hmeets ⊢
  exact h (name :: names) found within last (.deeper hopens hname hfolder hdescends) hincluded
    hmeets

namespace AgreesOutside

variable (h : AgreesOutside before after place)

include h

theorem entryRole (hne : place ≠ []) (habsolute : path.isAbsolute = true)
    (houtside : ¬ place <:+ name :: location) (hmeet : ¬ before.Meets (path.child name) place)
    (follow : Bool) :
    SourceOutline.entryRole after follow location path name
      = SourceOutline.entryRole before follow location path name := by
  have hchild : (path.child name).isAbsolute = true := habsolute
  have hlink : linkRole after follow (path.child name)
      = linkRole before follow (path.child name) := by
    rw [linkRole, linkRole, h.locate hne hchild hmeet]
    cases hlocate : before.locate (path.child name) with
    | error fault => cases fault <;> rfl
    | ok target => simp only [h.object?_of_locate hne hchild hmeet hlocate]
  rw [SourceOutline.entryRole, SourceOutline.entryRole, h.objects _ houtside, hlink]

/-- A visit that takes nothing from the place finds the same nodes in both volumes. -/
theorem visitFolder (hne : place ≠ []) (entered : List Location) (path : Path) (id : String) :
    path.isAbsolute = true → ¬ before.Meets path place →
    TakesNothing before after settings place entered path →
    (SourceOutline.visitFolder codecs before settings entered path id).map nodeFindings
      = (SourceOutline.visitFolder codecs after settings entered path id).map nodeFindings := by
  fun_induction SourceOutline.visitFolder codecs before settings entered path id with
  | case1 entered path id hnull =>
    intro _ _ _
    rw [SourceOutline.visitFolder, if_pos hnull]
  | case2 entered path id hnull hentered =>
    intro habsolute hmeet _
    rw [← h.leadsInto hne habsolute hmeet] at hentered
    rw [SourceOutline.visitFolder, if_neg hnull, dif_pos hentered]
  | case3 entered path id hnull hentered fault hopen =>
    intro habsolute hmeet _
    rw [← h.leadsInto hne habsolute hmeet] at hentered
    rw [← h.openFolder hne habsolute hmeet] at hopen
    rw [visitFolder_of_error (Bool.eq_false_iff.2 hnull) (Bool.eq_false_iff.2 hentered) hopen]
  | case4 entered path id hnull hentered location hopen ih =>
    intro habsolute hmeet htakes
    have hopens : Opens before entered path location :=
      ⟨Bool.eq_false_iff.2 hnull, Bool.eq_false_iff.2 hentered, hopen⟩
    have hother : Opens after entered path location := by
      refine ⟨hopens.plain, ?_, ?_⟩
      · rw [h.leadsInto hne habsolute hmeet]
        exact hopens.fresh
      · rw [h.openFolder hne habsolute hmeet]
        exact hopen
    have houtside : ¬ place <:+ location := h.not_suffix_of_locate hne habsolute hmeet
      (Volume.locate_of_openFolder hopen)
    -- entries at which the volumes differ are met, and the others are listed alike
    let test := fun name => decide (after.object? (name :: location)
      = before.object? (name :: location))
    have hmeets : ∀ name, test name = false → before.Meets (path.child name) place := by
      intro name hname
      by_cases hplace : name :: location = place
      · exact hplace ▸ Volume.meets_child habsolute hopen name
      · exact absurd (h.objects _ (not_suffix_cons hplace houtside)) (of_decide_eq_false hname)
    have hlisted : (before.sortedNames location).filter test
        = (after.sortedNames location).filter test := by
      refine Volume.filter_sortedNames_congr fun name hname => ?_
      rw [Volume.mem_namesIn_iff, Volume.mem_namesIn_iff, of_decide_eq_true hname]
    have hskip := fun name (hname : test name = false) =>
      htakes.map_nodeFindings_visitEntry hopens hother (hmeets name hname) codecs id
    rw [visitFolder_of_opens hother, map_nodeFindings_visitEntries, map_nodeFindings_visitEntries,
      visitEntries_filter _ fun name _ hname => (hskip name hname).1 _,
      visitEntries_filter (after.sortedNames _) fun name _ hname => (hskip name hname).2 _, hlisted]
    refine visitEntries_congr fun name hname => ?_
    by_cases hclear : before.Meets (path.child name) place
    · obtain ⟨hbefore, hafter⟩ := htakes.map_nodeFindings_visitEntry hopens hother hclear codecs id
      rw [hbefore, hafter]
    · have hchild : (path.child name).isAbsolute = true := habsolute
      have hentry : ¬ place <:+ name :: location := not_suffix_cons
        (fun hplace => hclear (hplace ▸ Volume.meets_child habsolute hopen name)) houtside
      refine map_nodeFindings_visitEntry_congr
        (h.entryRole hne habsolute hentry hclear settings.followLinks.isTrue)
        (h.readText hne hchild hclear settings.encoding) fun hfolder childId => ?_
      have hname : name ∈ before.namesIn location :=
        mem_namesIn_of_entryRole (by rw [hfolder.role]; decide)
      exact ih (path.child name) childId hchild hclear (htakes.child hopens hname hfolder)

end AgreesOutside

end

/-- The snapshot of a walk, or the fault with which it fails, is told by the nodes that the visit of
    its start finds. -/
theorem map_snapshot_walk (volume : Volume) (settings : Settings) (root : Path) :
    (walk codecs volume settings root).map (·.snapshot)
      = (((visitFolder codecs volume settings [] (walkStart volume root)
          (rootNode (walkStart volume root)).id).map nodeFindings).map fun found =>
            (WalkResult.ofFound (walkStart volume root) found).snapshot).mapError .scan := by
  cases hvisit : visitFolder codecs volume settings [] (walkStart volume root)
      (rootNode (walkStart volume root)).id with
  | error fault =>
    rw [walk_of_visitFolder_error hvisit]
    rfl
  | ok found =>
    rw [(walk_eq_of_visitFolder hvisit).1]
    exact congrArg Except.ok (by simp only [WalkResult.ofFound, filterMap_nodeFindings])

/-! ## Changes of one entry -/

/-- Two volumes differ only in the entry of a folder with a name, which stands at a place: what is
    there and below it may be anything in either. -/
structure IsEntryChange (before after : Volume) (folder : Path) (name : Name) (place : Location) :
    Prop extends AgreesOutside before after place where
  located : ∃ location, place = name :: location ∧
    (before.locate folder = .ok location ∨ after.locate folder = .ok location)

/-- A place is out of the way of walks, before and after a change there. The root does not meet it;
    of the paths that a walk takes and that meet it only the entry's own may be supported; and none
    is a folder to the walk, except the entry's own if that is no link. -/
structure IsOutOfTheWay (before after : Volume) (settings : Settings) (start : Path)
    (own : List Name) (place : Location) : Prop where
  root : ¬ before.Meets start place
  unsupported : ∀ names, IsEntryPath before settings start (fun folder name =>
    before.Meets (folder.child name) place ∧ settings.isSupported name.text ≠ .ok false) names →
      names = own
  noFolder : ∀ volume, volume = before ∨ volume = after → ∀ names,
    IsEntryPath before settings start (fun folder name =>
      before.Meets (folder.child name) place ∧ IsFolderIn volume settings folder name) names →
        names = own ∧ volume.hasLink place = false

section

variable {before after : Volume} {settings : Settings} {start : Path} {own outer names : List Name}
  {place : Location} {name : Name}

/-- A folder that a walk lists does not meet the place, unless it is the entry there. -/
theorem IsOutOfTheWay.not_meets (h : IsOutOfTheWay before after settings start own place)
    (hopen : IsOpenPath before settings start names) (hne : names ≠ own) :
    ¬ before.Meets (start.below names) place := by
  intro hmeets
  rcases List.eq_nil_or_concat names with rfl | ⟨outer, name, rfl⟩
  · rw [Path.below_nil] at hmeets
    exact h.root hmeets
  · rw [List.concat_eq_append] at hopen hne hmeets
    rw [← Path.child_below] at hmeets
    have hfolder := hopen.folders outer name (List.prefix_refl _)
    have hincluded := hopen.included name (by simp)
    exact hne (h.noFolder before (.inl rfl) _ ⟨outer, name, rfl,
      hopen.of_prefix (List.prefix_append _ _), hincluded, hmeets, hfolder⟩).1

theorem IsEntryChange.place_ne_nil {folder : Path}
    (h : IsEntryChange before after folder name place) : place ≠ [] := by
  obtain ⟨location, rfl, -⟩ := h.located
  exact List.cons_ne_nil _ _

/-- The entry that has changed is found at its place, where its folder is not met by way of it. -/
theorem IsEntryChange.eq_of_locate {folder : Path} {location : Location}
    (h : IsEntryChange before after folder name place) (habsolute : folder.isAbsolute = true)
    (hmeet : ¬ before.Meets folder place) (hlocate : before.locate folder = .ok location) :
    name :: location = place := by
  obtain ⟨found, hplace, hfound⟩ := h.located
  rw [h.toAgreesOutside.locate h.place_ne_nil habsolute hmeet, or_self] at hfound
  rw [hplace, Except.ok.inj (hlocate.symm.trans hfound)]

/-- What has changed is no folder to the walk at its own path, if it is none itself. -/
theorem IsOutOfTheWay.not_isFolderIn {volume : Volume}
    (h : IsOutOfTheWay before after settings start (outer ++ [name]) place)
    (hchange : IsEntryChange before after (start.below outer) name place)
    (habsolute : start.isAbsolute = true) (hvolume : volume = before ∨ volume = after)
    (hopen : IsOpenPath before settings start outer)
    (hincluded : settings.isExcluded name.text = false)
    (hmeets : before.Meets ((start.below outer).child name) place)
    (hnone : volume.hasFolder place = false) :
    ¬ IsFolderIn volume settings (start.below outer) name := by
  intro hfolder
  have hlink := (h.noFolder volume hvolume (outer ++ [name])
    ⟨outer, name, rfl, hopen, hincluded, hmeets, hfolder⟩).2
  have hclear : ¬ before.Meets (start.below outer) place := h.not_meets hopen (by simp)
  have hbelow : (start.below outer).isAbsolute = true := habsolute
  obtain ⟨location, hlocation, hkind⟩ := hfolder
  have hbefore : before.openFolder (start.below outer) = .ok location := by
    rcases hvolume with rfl | rfl
    · exact hlocation
    · rwa [← hchange.toAgreesOutside.openFolder hchange.place_ne_nil hbelow hclear]
  rw [hchange.eq_of_locate hbelow hclear (Volume.locate_of_openFolder hbefore), hnone, hlink]
    at hkind
  simp at hkind

/-- A visit takes no nodes from the place of a change that is out of its way, if what has changed is
    excluded, or no folder itself and not supported. -/
theorem IsOutOfTheWay.takesNothing
    (h : IsOutOfTheWay before after settings start (outer ++ [name]) place)
    (hchange : IsEntryChange before after (start.below outer) name place)
    (habsolute : start.isAbsolute = true)
    (hown : (∀ inner ∈ outer ++ [name], settings.isExcluded inner.text = false) →
      settings.isSupported name.text = .ok false ∧ before.hasFolder place = false ∧
        after.hasFolder place = false) :
    TakesNothing before after settings place [] start := by
  intro names location within last hdescends hincluded hmeets
  have hnull : start.hasNull = false := by
    cases hdescends with
    | here hopens => exact hopens.plain
    | deeper hopens => exact hopens.plain
  have hopen := ((exists_descends_iff habsolute hnull).1 ⟨_, _, hdescends⟩).1
  by_cases hpath : names ++ [last] = outer ++ [name]
  · -- the path of the entry itself
    obtain ⟨rfl, hlast⟩ := List.append_inj' hpath rfl
    obtain rfl := (List.cons.inj hlast).1
    obtain ⟨hsupported, hbefore, hafter⟩ := hown fun inner hinner =>
      (List.mem_append.1 hinner).elim (hopen.included inner) fun hlast =>
        List.mem_singleton.1 hlast ▸ hincluded
    exact ⟨hsupported,
      h.not_isFolderIn hchange habsolute (.inl rfl) hopen hincluded hmeets hbefore,
      h.not_isFolderIn hchange habsolute (.inr rfl) hopen hincluded hmeets hafter⟩
  · -- another path, of which nothing but this is asked
    refine ⟨Classical.byContradiction fun hsupported => ?_, fun hfolder => ?_, fun hfolder => ?_⟩
    · exact hpath (h.unsupported _ ⟨names, last, rfl, hopen, hincluded, hmeets, hsupported⟩)
    · exact hpath (h.noFolder before (.inl rfl) _
        ⟨names, last, rfl, hopen, hincluded, hmeets, hfolder⟩).1
    · exact hpath (h.noFolder after (.inr rfl) _
        ⟨names, last, rfl, hopen, hincluded, hmeets, hfolder⟩).1

end

section

variable {τ : Type} {watcher : Watcher τ} {before after : Volume} {outer : List Name} {name : Name}
  {place : Location}

/-- What is not relevant, though nothing on its path is excluded, is no folder and not supported. -/
theorem Watcher.unsupported_of_isRelevant {isFolder : Bool}
    (h : watcher.isRelevant (watcher.root.below (outer ++ [name])) isFolder = .ok false)
    (hincluded : ∀ inner ∈ outer ++ [name], watcher.settings.isExcluded inner.text = false) :
    watcher.settings.isSupported name.text = .ok false ∧ isFolder = false := by
  have hpath : watcher.root.below (outer ++ [name])
      = watcher.root.below (name :: outer.reverse).reverse := by simp
  rw [hpath] at h
  obtain ⟨inner, hinner, hexcluded⟩ | ⟨hfolder, first, rest, hnames, hsupported⟩ :=
    Watcher.overlooks_of_isRelevant (List.cons_ne_nil _ _) h
  · have hmem : inner ∈ outer ++ [name] := by simpa [or_comm] using hinner
    exact absurd hexcluded (Bool.eq_false_iff.1 (hincluded inner hmem))
  · obtain ⟨rfl, -⟩ := List.cons.inj hnames
    exact ⟨hsupported, hfolder⟩

/-- A change of an entry that a watcher takes for irrelevant, and that is out of the way of walks,
    leaves the snapshot as it is. The watcher is told whether the entry itself is a folder, before
    or after the change. -/
theorem snapshot_eq_of_not_isRelevant
    (hchange : IsEntryChange before after ((walkStart before watcher.root).below outer) name place)
    (haside : IsOutOfTheWay before after watcher.settings (walkStart before watcher.root)
      (outer ++ [name]) place)
    (hirrelevant : watcher.isRelevant (watcher.root.below (outer ++ [name]))
      (before.hasFolder place || after.hasFolder place) = .ok false) :
    (walk codecs before watcher.settings watcher.root).map (·.snapshot)
      = (walk codecs after watcher.settings watcher.root).map (·.snapshot) := by
  have habsolute := isAbsolute_walkStart before watcher.root
  have hstart : walkStart after watcher.root = walkStart before watcher.root := by
    rw [walkStart, walkStart, hchange.working]
  have htakes : TakesNothing before after watcher.settings place []
      (walkStart before watcher.root) := by
    refine haside.takesNothing hchange habsolute fun hincluded => ?_
    obtain ⟨hsupported, hfolder⟩ := Watcher.unsupported_of_isRelevant hirrelevant hincluded
    exact ⟨hsupported, Bool.or_eq_false_iff.1 hfolder⟩
  rw [map_snapshot_walk, map_snapshot_walk, hstart, hchange.toAgreesOutside.visitFolder
    hchange.place_ne_nil [] _ _ habsolute haside.root htakes]

end

/-! ## Files to which links lead -/

/-- The name of a file with data. -/
def dataName : Name := ⟨"data.txt", by decide⟩

/-- The name of a file with notes. -/
def noteName : Name := ⟨"note.txt", by decide⟩

/-- The name of a link to the notes. -/
def copyName : Name := ⟨"copy.txt", by decide⟩

/-- The locations of a repository with data, notes and links to both. -/
def linkedPlaces : List Location :=
  [[repositoryName], [sourceName, repositoryName], [copyName, repositoryName],
    [dataName, repositoryName], [noteName, repositoryName]]

/-- The repository with some data and notes. The link to the data is named like a source file. -/
def linkedRepository (data note : String) : Volume where
  entries :=
    [([repositoryName], .folder true),
     ([sourceName, repositoryName], .link "data.txt"),
     ([copyName, repositoryName], .link "note.txt"),
     ([dataName, repositoryName], .file (encodeUtf8 data.toList) true),
     ([noteName, repositoryName], .file (encodeUtf8 note.toList) true)]
  distinct := by
    have hplaces : linkedPlaces.Nodup := by decide
    exact hplaces
  plain := by
    have hplaces : ∀ place ∈ linkedPlaces, ∀ name ∈ place, name.hasNull = false := by decide
    simpa [linkedPlaces] using hplaces

/-- The path from the top to it. -/
def linkedPath : Path where
  start := .top
  steps := [.down repositoryName]

section

variable {data note : String} {name : Name} {place : Location} {budget : Nat}

theorem hasFolder_linkedRepository (data note : String) (name : Name) :
    (linkedRepository data note).hasFolder [name, repositoryName] = false := by
  rw [Volume.hasFolder]
  split
  case h_1 listable hobject => simpa [linkedRepository] using Volume.mem_of_lookup_eq_some hobject
  case h_2 => rfl

theorem eq_of_object?_linkedRepository {target : String}
    (h : (linkedRepository data note).object? [name, repositoryName] = some (.link target)) :
    name = sourceName ∧ target = "data.txt" ∨ name = copyName ∧ target = "note.txt" := by
  simpa [linkedRepository] using Volume.mem_of_lookup_eq_some h

/-- On the way to one of its entries there are the repository, the entry, and what it leads to if it
    is a link. -/
theorem meets_linkedRepository
    (h : (linkedRepository data note).StepsMeet place budget []
      [.down repositoryName, .down name]) :
    place = [repositoryName] ∨ place = [name, repositoryName] ∨
      name = sourceName ∧ place = [dataName, repositoryName] ∨
        name = copyName ∧ place = [noteName, repositoryName] := by
  cases h with
  | entry _ hplace => exact .inl hplace.symm
  | link hlink => cases hlink
  | folder _ hrest =>
    cases hrest with
    | entry _ hplace => exact .inr (.inl hplace.symm)
    | folder _ hnil => cases hnil
    | link hlink hmore =>
      obtain ⟨rfl, rfl⟩ | ⟨rfl, rfl⟩ := eq_of_object?_linkedRepository hlink
      · have hsteps : stepsOfText "data.txt" ++ [] = [.down dataName] := rfl
        rw [hsteps] at hmore
        cases hmore with
        | entry _ hplace => exact .inr (.inr (.inl ⟨rfl, hplace.symm⟩))
        | folder _ hnil => cases hnil
        | link hlink _ => cases hlink
      · have hsteps : stepsOfText "note.txt" ++ [] = [.down noteName] := rfl
        rw [hsteps] at hmore
        cases hmore with
        | entry _ hplace => exact .inr (.inr (.inr ⟨rfl, hplace.symm⟩))
        | folder _ hnil => cases hnil
        | link hlink _ => cases hlink

theorem not_isFolderIn_linkedRepository (settings : Settings) :
    ¬ IsFolderIn (linkedRepository data note) settings linkedPath name := by
  have hopen : (linkedRepository data note).openFolder linkedPath = .ok [repositoryName] := rfl
  rw [IsFolderIn, exists_ok_and_iff hopen, hasFolder_linkedRepository]
  rintro (hfolder | ⟨-, hlink, target, hlocate, hfolder⟩)
  · cases hfolder
  · obtain ⟨link, hobject⟩ : ∃ link, (linkedRepository data note).object? [name, repositoryName]
        = some (.link link) := by
      unfold Volume.hasLink at hlink
      split at hlink
      case h_1 link hobject => exact ⟨link, hobject⟩
      case h_2 => cases hlink
    obtain ⟨rfl, -⟩ | ⟨rfl, -⟩ := eq_of_object?_linkedRepository hobject
    · have hdata : (linkedRepository data note).locate (linkedPath.child sourceName)
          = .ok [dataName, repositoryName] := rfl
      rw [Except.ok.inj (hlocate.symm.trans hdata), hasFolder_linkedRepository] at hfolder
      cases hfolder
    · have hnote : (linkedRepository data note).locate (linkedPath.child copyName)
          = .ok [noteName, repositoryName] := rfl
      rw [Except.ok.inj (hlocate.symm.trans hnote), hasFolder_linkedRepository] at hfolder
      cases hfolder

theorem eq_nil_of_isOpenPath_linkedRepository {settings : Settings} {names : List Name}
    (h : IsOpenPath (linkedRepository data note) settings linkedPath names) : names = [] := by
  cases names with
  | nil => rfl
  | cons name rest =>
    exact absurd (h.folders [] name (by simp)) (not_isFolderIn_linkedRepository settings)

theorem isOutOfTheWay_note {settings : Settings} (data note newNote : String)
    (hcopy : settings.isSupported "copy.txt" = .ok false) :
    IsOutOfTheWay (linkedRepository data note) (linkedRepository data newNote) settings linkedPath
      [noteName] [noteName, repositoryName] := by
  have hmeets : ∀ {kind : Path → Name → Prop} {names : List Name},
      IsEntryPath (linkedRepository data note) settings linkedPath (fun folder name =>
        (linkedRepository data note).Meets (folder.child name) [noteName, repositoryName] ∧
          kind folder name) names →
      ∃ name, names = [name] ∧ kind linkedPath name ∧ (name = noteName ∨ name = copyName) := by
    rintro kind names ⟨outer, name, rfl, hopen, -, hmeets, hkind⟩
    obtain rfl := eq_nil_of_isOpenPath_linkedRepository hopen
    refine ⟨name, rfl, hkind, ?_⟩
    obtain hplace | hplace | ⟨-, hplace⟩ | ⟨hname, -⟩ := meets_linkedRepository hmeets
    · exact absurd hplace (by decide)
    · exact .inl (List.cons.inj hplace).1.symm
    · exact absurd hplace (by decide)
    · exact .inr hname
  refine ⟨fun hroot => ?_, fun names hnames => ?_, fun volume hvolume names hnames => ?_⟩
  · have hsteps : (linkedRepository data note).StepsMeet [noteName, repositoryName] linkBudget []
        [.down repositoryName] := hroot
    cases hsteps with
    | entry _ hplace => exact absurd hplace (by decide)
    | folder _ hnil => cases hnil
    | link hlink _ => cases hlink
  · obtain ⟨_, rfl, hsupported, rfl | rfl⟩ := hmeets hnames
    · rfl
    · exact absurd hcopy hsupported
  · obtain ⟨_, -, hfolder, -⟩ := hmeets hnames
    rcases hvolume with rfl | rfl <;>
      exact absurd hfolder (not_isFolderIn_linkedRepository settings)

theorem isEntryChange_linkedRepository {before after : Volume} (object : Object)
    (hlocate : before.locate linkedPath = .ok [repositoryName])
    (hput : before.put [name, repositoryName] object = after)
    (hplain : ∀ part ∈ [name, repositoryName], part.hasNull = false) :
    IsEntryChange before after linkedPath name [name, repositoryName] := by
  subst hput
  exact ⟨.of_put before object (List.cons_ne_nil _ _) hplain, [repositoryName], rfl, .inl hlocate⟩

end

/-- When the notes change, the snapshot stays as it is, though a link leads to them. -/
theorem snapshot_linkedRepository_note :
    IsEntryChange (linkedRepository "x = 1\n" "old\n") (linkedRepository "x = 1\n" "new\n")
      ((walkStart (linkedRepository "x = 1\n" "old\n") (emptyWatcher "utf-8").root).below [])
      noteName [noteName, repositoryName] ∧
    IsOutOfTheWay (linkedRepository "x = 1\n" "old\n") (linkedRepository "x = 1\n" "new\n")
      (emptyWatcher "utf-8").settings
      (walkStart (linkedRepository "x = 1\n" "old\n") (emptyWatcher "utf-8").root)
      [noteName] [noteName, repositoryName] ∧
    (emptyWatcher "utf-8").isRelevant ((emptyWatcher "utf-8").root.below [noteName])
      ((linkedRepository "x = 1\n" "old\n").hasFolder [noteName, repositoryName] ||
        (linkedRepository "x = 1\n" "new\n").hasFolder [noteName, repositoryName]) = .ok false ∧
    (walk Encoding.codecs (linkedRepository "x = 1\n" "old\n") (emptyWatcher "utf-8").settings
        (emptyWatcher "utf-8").root).map (·.snapshot)
      = (walk Encoding.codecs (linkedRepository "x = 1\n" "new\n") (emptyWatcher "utf-8").settings
        (emptyWatcher "utf-8").root).map (·.snapshot) := by
  have hchange : IsEntryChange (linkedRepository "x = 1\n" "old\n")
      (linkedRepository "x = 1\n" "new\n")
      ((walkStart (linkedRepository "x = 1\n" "old\n") (emptyWatcher "utf-8").root).below [])
      noteName [noteName, repositoryName] :=
    isEntryChange_linkedRepository (.file (encodeUtf8 "new\n".toList) true) rfl rfl (by decide)
  have hcopy : (emptyWatcher "utf-8").settings.isSupported "copy.txt" = .ok false := by
    decide +kernel
  have haside := isOutOfTheWay_note "x = 1\n" "old\n" "new\n" hcopy
  have hirrelevant : (emptyWatcher "utf-8").isRelevant
      ((emptyWatcher "utf-8").root.below [noteName])
      ((linkedRepository "x = 1\n" "old\n").hasFolder [noteName, repositoryName] ||
        (linkedRepository "x = 1\n" "new\n").hasFolder [noteName, repositoryName])
      = .ok false := by decide +kernel
  exact ⟨hchange, haside, hirrelevant, snapshot_eq_of_not_isRelevant hchange haside hirrelevant⟩

/-- A walk visits its entries in the order of their names. -/
theorem visitFolder_linkedRepository (data note : String) (settings : Settings) (id : String) :
    visitFolder Encoding.codecs (linkedRepository data note) settings [] linkedPath id
      = visitEntries
        (visitEntry Encoding.codecs (linkedRepository data note) settings [repositoryName]
          linkedPath id
          (visitFolder Encoding.codecs (linkedRepository data note) settings [[repositoryName]]))
        [sourceName, copyName, dataName, noteName] := by
  have hopens : Opens (linkedRepository data note) [] linkedPath [repositoryName] :=
    ⟨by decide, rfl, rfl⟩
  have hnames : (linkedRepository data note).namesIn [repositoryName]
      = [sourceName, copyName, dataName, noteName] := rfl
  rw [visitFolder_of_opens hopens, Volume.sortedNames, hnames,
    List.mergeSort_of_pairwise (by decide)]

/-- The snapshot of a walk is known from what the visits of its entries find. -/
theorem map_snapshot_walk_linkedRepository {data note : String} {settings : Settings}
    {found : List Finding}
    (h : visitEntries
        (visitEntry Encoding.codecs (linkedRepository data note) settings [repositoryName]
          linkedPath "folder:/repo"
          (visitFolder Encoding.codecs (linkedRepository data note) settings [[repositoryName]]))
        [sourceName, copyName, dataName, noteName] = .ok found) :
    (walk Encoding.codecs (linkedRepository data note) settings
        (Path.ofText "/repo")).map (·.snapshot)
      = .ok (WalkResult.ofFound linkedPath found).snapshot := by
  have hvisit : visitFolder Encoding.codecs (linkedRepository data note) settings [] linkedPath
      "folder:/repo" = .ok found := by rw [visitFolder_linkedRepository, h]
  have hwalk : walk Encoding.codecs (linkedRepository data note) settings (Path.ofText "/repo")
      = .ok (WalkResult.ofFound linkedPath found) := (walk_eq_of_visitFolder hvisit).1
  rw [hwalk]
  rfl

/-- What a walk finds of the link. -/
def linkFindings (definitions : List Node) : List Finding :=
  .node (fileNode (linkedPath.child sourceName) "a.py" "folder:/repo") :: definitions.map .node

/-- The node of a function on the first line. -/
def functionNode : Node where
  id := "function:/repo/a.py:0:f"
  label := "f"
  kind := "function"
  sourcePath := "/repo/a.py"
  parentId := some "file:/repo/a.py"
  endLine := some 0
  snippet := some "def f(): pass"

/-- When the data change, to which the link named like a source file leads, the snapshot of the walk
    does too, but the watcher takes the change for irrelevant. -/
theorem snapshot_linkedRepository_data :
    IsEntryChange (linkedRepository "x = 1\n" "") (linkedRepository "def f(): pass\n" "")
      ((walkStart (linkedRepository "x = 1\n" "") (emptyWatcher "utf-8").root).below [])
      dataName [dataName, repositoryName] ∧
    (emptyWatcher "utf-8").isRelevant ((emptyWatcher "utf-8").root.below [dataName])
      ((linkedRepository "x = 1\n" "").hasFolder [dataName, repositoryName] ||
        (linkedRepository "def f(): pass\n" "").hasFolder [dataName, repositoryName])
      = .ok false ∧
    (walk Encoding.codecs (linkedRepository "x = 1\n" "") (emptyWatcher "utf-8").settings
        (emptyWatcher "utf-8").root).map (·.snapshot)
      ≠ (walk Encoding.codecs (linkedRepository "def f(): pass\n" "")
        (emptyWatcher "utf-8").settings (emptyWatcher "utf-8").root).map (·.snapshot) := by
  have hchange : IsEntryChange (linkedRepository "x = 1\n" "")
      (linkedRepository "def f(): pass\n" "") linkedPath dataName [dataName, repositoryName] :=
    isEntryChange_linkedRepository (.file (encodeUtf8 "def f(): pass\n".toList) true) rfl rfl
      (by decide)
  have hbefore : (walk Encoding.codecs (linkedRepository "x = 1\n" "")
      (emptyWatcher "utf-8").settings (Path.ofText "/repo")).map (·.snapshot)
        = .ok (WalkResult.ofFound linkedPath (linkFindings [])).snapshot :=
    map_snapshot_walk_linkedRepository (by decide +kernel)
  have hafter : (walk Encoding.codecs (linkedRepository "def f(): pass\n" "")
      (emptyWatcher "utf-8").settings (Path.ofText "/repo")).map (·.snapshot)
        = .ok (WalkResult.ofFound linkedPath (linkFindings [functionNode])).snapshot :=
    map_snapshot_walk_linkedRepository (by decide +kernel)
  refine ⟨hchange, by decide +kernel, fun hsame => ?_⟩
  have hsnapshots := Except.ok.inj (hbefore.symm.trans (hsame.trans hafter))
  exact absurd hsnapshots (by decide +kernel)

end SourceOutline
