import SourceOutline.Proofs.Repository.Containment
import SourceOutline.Proofs.Repository.Exclusion
import SourceOutline.Proofs.Volume.Making

set_option autoImplicit false

/-! # Walks of folders within a walk

If links to folders are not followed, every folder that a walk goes into stands deeper than all that
are being visited, so none of them is a cycle and it makes no difference which they are
(`visitFolder_of_leadsDeeper`). What is found in a folder is then what a walk of the folder alone
finds, and it stands in one piece among the findings of the walk (`exists_splitsAt_of_visitFolder`).

Main statement (`walk_of_folder`): a walk from the path of a folder of another walk gives the node
of the folder, as the root, and the nodes that it contains there, in the same order, and it skips
what is skipped there at or below the folder. -/

namespace SourceOutline

variable {codecs : Codecs}

/-! ## Folders below folders -/

section

variable {volume : Volume} {settings : Settings} {entered : List Location} {location : Location}
  {path : Path} {name : Name} {id : String}

theorem Volume.eq_of_realLocation?_child (habsolute : path.isAbsolute = true)
    (hopen : volume.openFolder path = .ok location)
    (hfolder : volume.hasFolder (name :: location) = true) {real : Location}
    (hreal : volume.realLocation? (path.child name) = some real) : real = name :: location := by
  have hchild : (path.child name).isAbsolute = true := habsolute
  have hchase : volume.chase .followed linkBudget [] (path.steps ++ [.down name])
      = .ok (.present real) := by
    rw [realLocation?, startOf, if_pos hchild] at hreal
    split at hreal
    case h_1 there hthere => rwa [← Option.some.inj hreal]
    case h_2 => cases hreal
    case h_3 => cases hreal
  obtain ⟨between, less, hfirst, -, hlast⟩ :=
    exists_chase_of_append isFolderWay_nil (List.cons_ne_nil _ _) hchase
  have hthere := chase_of_locate habsolute (locate_of_openFolder hopen)
  obtain rfl := Place.present.inj (Except.ok.inj (hthere.symm.trans hfirst))
  rcases chase_followed_eq_present_iff.1 hlast with harrived | ⟨_, _, _, _, _, hlink, -⟩
  · obtain ⟨-, hrest⟩ | ⟨-, rfl⟩ := advance_down_eq_arrived harrived
    · exact (Progress.arrived.inj hrest).symm
    · rfl
  · -- a folder is no link
    have hmeets : volume.MeetsNoLink location [.down name] :=
      .down (hasLink_of_hasFolder hfolder) fun _ _ _ _ hmore => by cases hmore
    exact absurd hlink (hmeets _ _ _ _)

/-- Wherever a path leads is deeper than some locations. -/
def LeadsDeeper (volume : Volume) (path : Path) (entered : List Location) : Prop :=
  ∀ real, volume.realLocation? path = some real → ∀ other ∈ entered, other.length < real.length

theorem LeadsDeeper.nil (volume : Volume) (path : Path) : LeadsDeeper volume path [] :=
  fun _ _ _ hmem => absurd hmem List.not_mem_nil

theorem LeadsDeeper.leadsInto_eq_false (h : LeadsDeeper volume path entered) :
    volume.leadsInto path entered = false := by
  rw [← Bool.not_eq_true, leadsInto_iff]
  rintro ⟨real, hmem, hreal⟩
  exact Nat.lt_irrefl _ (h real hreal real hmem)

/-- Without links followed, the way to a folder in an opened folder leads deeper than that. -/
theorem LeadsDeeper.child (h : LeadsDeeper volume path entered)
    (hlinks : settings.followLinks.isTrue = false) (habsolute : path.isAbsolute = true)
    (hopen : volume.openFolder path = .ok location)
    (hfolder : IsFolderEntry volume settings location path name) :
    LeadsDeeper volume (path.child name) (location :: entered) := by
  obtain ⟨-, other, hother, hin⟩ := (isFolderEntry_iff hopen).1 hfolder
  obtain rfl := Except.ok.inj (hopen.symm.trans hother)
  have hstands : volume.hasFolder (name :: location) = true := by
    rcases hin with hstands | ⟨hfollow, -⟩
    · exact hstands
    · cases hlinks.symm.trans hfollow
  intro real hreal visited hvisited
  rw [Volume.eq_of_realLocation?_child habsolute hopen hstands hreal, List.length_cons]
  rcases List.mem_cons.1 hvisited with rfl | hbefore
  · exact Nat.lt_succ_self _
  · exact Nat.lt_succ_of_lt (h location (Volume.openFolder_ok hopen).2 visited hbefore)

/-- Without links followed, what a visit finds does not depend on the folders being visited, if the
    path leads deeper than all of them. -/
theorem visitFolder_of_leadsDeeper (hlinks : settings.followLinks.isTrue = false)
    (entered : List Location) (path : Path) (id : String) :
    path.isAbsolute = true → LeadsDeeper volume path entered →
      ∀ others, LeadsDeeper volume path others →
        visitFolder codecs volume settings entered path id
          = visitFolder codecs volume settings others path id := by
  fun_induction visitFolder codecs volume settings entered path id with
  | case1 entered path id hnull =>
    intro _ _ others _
    rw [visitFolder, if_pos hnull]
  | case2 entered path id hnull hentered =>
    intro _ hdeeper
    cases hentered.symm.trans hdeeper.leadsInto_eq_false
  | case3 entered path id hnull hentered fault hopen =>
    intro _ _ others hothers
    rw [visitFolder_of_error (Bool.eq_false_iff.2 hnull) hothers.leadsInto_eq_false hopen]
  | case4 entered path id hnull hentered location hopen ih =>
    intro habsolute hdeeper others hothers
    have hopens : Opens volume others path location :=
      ⟨Bool.eq_false_iff.2 hnull, hothers.leadsInto_eq_false, hopen⟩
    rw [visitFolder_of_opens hopens]
    refine visitEntries_congr fun name _ => ?_
    by_cases hfolder : IsFolderEntry volume settings location path name
    · rw [visitEntry_of_isFolderEntry hfolder, visitEntry_of_isFolderEntry hfolder,
        ih (path.child name) _ habsolute (hdeeper.child hlinks habsolute hopen hfolder) _
          (hothers.child hlinks habsolute hopen hfolder)]
    · exact visitEntry_of_not_isFolderEntry hfolder id _ _

end

/-! ## The findings of a folder -/

/-- A finding below a path stands neither at what some names lead to nor below it. -/
def Finding.StandsOutside (path : Path) (names : List Name) (finding : Finding) : Prop :=
  ∃ more, finding.pathText = (path.below more).text ∧ ¬ names <+: more

/-- Findings below a path are cut at the folder by some names: there come its node and what a visit
    of it alone finds, and before and after it findings that are neither at nor below the folder. -/
structure SplitsAt (codecs : Codecs) (volume : Volume) (settings : Settings) (path : Path)
    (found : List Finding)
    (folder : Node) (names : List Name) (left inner right : List Finding) : Prop where
  found_eq : found = left ++ .node folder :: (inner ++ right)
  folder_eq : { folder with parentId := none } = rootNode (path.below names)
  visit_eq : visitFolder codecs volume settings [] (path.below names)
    (folderId (path.below names).text) = .ok inner
  outside : ∀ finding ∈ left ++ right, finding.StandsOutside path names

section

variable {volume : Volume} {settings : Settings} {entered : List Location} {location : Location}
  {path : Path} {name : Name} {id : String} {found left inner right : List Finding}
  {folder : Node} {names : List Name}

theorem SplitsAt.folder_spec
    (h : SplitsAt codecs volume settings path found folder names left inner right) :
    folder.kind = folderKind ∧ folder.sourcePath = (path.below names).text ∧
      folder = folderNode (path.below names) folder.label folder.parentId := by
  refine ⟨congrArg Node.kind h.folder_eq, congrArg Node.sourcePath h.folder_eq, ?_⟩
  have hroot := h.folder_eq
  obtain ⟨id, label, kind, sourcePath, startLine, endLine, parentId, snippet⟩ := folder
  cases hroot
  rfl

theorem SplitsAt.nodes_eq
    (h : SplitsAt codecs volume settings path found folder names left inner right) :
    found.filterMap Finding.node? = left.filterMap Finding.node?
      ++ folder :: (inner.filterMap Finding.node? ++ right.filterMap Finding.node?) := by
  rw [h.found_eq, List.filterMap_append, List.filterMap_cons, Finding.node?,
    List.filterMap_append]

theorem SplitsAt.self (hfolder : { folder with parentId := none } = rootNode path)
    (hvisit : visitFolder codecs volume settings [] path (folderId path.text) = .ok inner) :
    SplitsAt codecs volume settings path (.node folder :: inner) folder [] [] inner [] where
  found_eq := by rw [List.nil_append, List.append_nil]
  folder_eq := by rw [Path.below_nil, hfolder]
  visit_eq := by rw [Path.below_nil, hvisit]
  outside _ hfinding := absurd hfinding List.not_mem_nil

theorem SplitsAt.append {before after : List Finding}
    (h : SplitsAt codecs volume settings path found folder names left inner right)
    (hbefore : ∀ finding ∈ before, finding.StandsOutside path names)
    (hafter : ∀ finding ∈ after, finding.StandsOutside path names) :
    SplitsAt codecs volume settings path (before ++ found ++ after) folder names
      (before ++ left) inner
      (right ++ after) where
  found_eq := by simp [h.found_eq]
  folder_eq := h.folder_eq
  visit_eq := h.visit_eq
  outside finding hfinding := by
    rcases List.mem_append.1 hfinding with hin | hin <;>
      rcases List.mem_append.1 hin with hthere | hthere
    · exact hbefore finding hthere
    · exact h.outside finding (List.mem_append_left _ hthere)
    · exact h.outside finding (List.mem_append_right _ hthere)
    · exact hafter finding hthere

theorem SplitsAt.cons {node : Node} (hnode : node.sourcePath = path.text) (hne : names ≠ [])
    (h : SplitsAt codecs volume settings path found folder names left inner right) :
    SplitsAt codecs volume settings path (.node node :: found) folder names
      (.node node :: left) inner
      right where
  found_eq := by rw [h.found_eq, List.cons_append]
  folder_eq := h.folder_eq
  visit_eq := h.visit_eq
  outside finding hfinding := by
    rcases List.mem_cons.1 hfinding with rfl | hin
    · exact ⟨[], by rw [Path.below_nil, ← hnode, Finding.pathText],
        fun hprefix => hne (List.prefix_nil.1 hprefix)⟩
    · exact h.outside finding hin

theorem SplitsAt.of_child
    (h : SplitsAt codecs volume settings (path.child name) found folder names left inner right) :
    SplitsAt codecs volume settings path found folder (name :: names) left inner right where
  found_eq := h.found_eq
  folder_eq := by rw [Path.below_cons, h.folder_eq]
  visit_eq := by rw [Path.below_cons, h.visit_eq]
  outside finding hfinding := by
    obtain ⟨more, htext, hmore⟩ := h.outside finding hfinding
    refine ⟨name :: more, by rw [Path.below_cons, htext], fun hprefix => hmore ?_⟩
    exact (List.cons_prefix_cons.1 hprefix).2

theorem rootNode_child (path : Path) (name : Name) (id : String) :
    { folderNode (path.child name) name.text (some id) with parentId := none }
      = rootNode (path.child name) := by
  have hname : (path.child name).fileName = name.text := by
    simpa using Path.fileName_below path [] name
  have hlabel : rootLabel (path.child name) = name.text := by
    rw [rootLabel, hname, if_neg name.text_spec.1]
  rw [rootNode, hlabel]
  rfl

theorem kind_ne_folderKind_of_visitFile
    (h : visitFile codecs volume settings path name id = .ok found)
    (hfolder : .node folder ∈ found) :
    folder.kind ≠ folderKind := by
  have hfile : folder = fileNode path name.text id → folder.kind ≠ folderKind := by
    rintro rfl
    exact folderKind_ne_fileKind.symm
  rcases visitFile_eq_ok h with ⟨reason, -, rfl⟩ | ⟨text, nodes, houtline, rfl⟩
  · simp only [List.mem_cons, Finding.node.injEq, reduceCtorEq, List.not_mem_nil, or_false]
      at hfolder
    exact hfile hfolder
  · rcases List.mem_cons.1 hfolder with hself | hin
    · exact hfile (Finding.node.inj hself)
    · obtain ⟨node, hnode, hsame⟩ := List.mem_map.1 hin
      obtain rfl := Finding.node.inj hsame
      have hdefinition := ScanOptions.isDefinition_outline houtline node hnode
      intro hkind
      rw [Node.isDefinition, hkind, isDefinition_folderKind] at hdefinition
      cases hdefinition

theorem kind_ne_folderKind_of_visitEntry {enter : Path → String → Except ScanFault (List Finding)}
    (hentry : ¬ IsFolderEntry volume settings location path name)
    (h : visitEntry codecs volume settings location path id enter name = .ok found)
    (hfolder : .node folder ∈ found) : folder.kind ≠ folderKind := by
  by_cases hfile : IsFileEntry volume settings location path name
  · rw [visitEntry_of_isFileEntry hfile] at h
    exact kind_ne_folderKind_of_visitFile h hfolder
  rcases visitEntry_of_neither hentry hfile with ⟨fault, -, herror⟩ | hempty | ⟨reason, -, hskip⟩
  · cases herror.symm.trans h
  · obtain rfl := Except.ok.inj (hempty.symm.trans h)
    exact absurd hfolder List.not_mem_nil
  · obtain rfl := Except.ok.inj (hskip.symm.trans h)
    simp at hfolder

/-- What is found at other entries than one stands outside what is at or below that. -/
theorem standsOutside_of_notMem {others : List Name} (hname : name ∉ others)
    (h : visitEntries (visitEntry codecs volume settings location path id
      (visitFolder codecs volume settings entered)) others = .ok found)
    (names : List Name) : ∀ finding ∈ found, finding.StandsOutside path (name :: names) := by
  intro finding hfinding
  obtain ⟨other, hother, first, hfirst, hmem⟩ := exists_mem_of_visitEntries h finding hfinding
  obtain ⟨more, hmore⟩ := exists_pathText_of_visitEntry
    (fun childId => exists_pathText_of_visitFolder _ (path.child other) childId) hfirst finding hmem
  refine ⟨other :: more, by rw [hmore, Path.below_cons], fun hprefix => hname ?_⟩
  rwa [(List.cons_prefix_cons.1 hprefix).1]

/-- Without links followed, the findings of a visit are cut at every folder that is found. -/
theorem exists_splitsAt_of_visitFolder (hlinks : settings.followLinks.isTrue = false)
    (hkind : folder.kind = folderKind) (entered : List Location) (path : Path) (id : String) :
    ∀ found, visitFolder codecs volume settings entered path id = .ok found →
      path.isAbsolute = true →
      LeadsDeeper volume path entered → .node folder ∈ found →
      ∃ names left inner right, names ≠ [] ∧
        SplitsAt codecs volume settings path found folder names left inner right := by
  fun_induction visitFolder codecs volume settings entered path id with
  | case1 entered path id hnull =>
    intro found h
    cases h
  | case2 entered path id hnull hentered =>
    intro found h _ _ hfolder
    obtain rfl := Except.ok.inj h
    simp at hfolder
  | case3 entered path id hnull hentered fault hopen =>
    intro found h _ _ hfolder
    obtain rfl := Except.ok.inj h
    simp at hfolder
  | case4 entered path id hnull hentered location hopen ih =>
    intro found h habsolute hdeeper hfolder
    obtain ⟨before, name, after, left, first, right, hnames, hleft, hfirst, hright, rfl, hin⟩ :=
      exists_split_of_visitEntries h _ hfolder
    have hentry : IsFolderEntry volume settings location path name := by
      by_contra hentry
      exact kind_ne_folderKind_of_visitEntry hentry hfirst hin hkind
    have hchild := hdeeper.child hlinks habsolute hopen hentry
    -- the other entries have other names, so what is found there stands outside
    have hdistinct := volume.nodup_sortedNames location
    rw [hnames, List.nodup_middle, List.nodup_cons, List.mem_append, not_or] at hdistinct
    obtain ⟨⟨hbefore, hafter⟩, -⟩ := hdistinct
    have houtside := standsOutside_of_notMem hbefore hleft
    have hbeyond := standsOutside_of_notMem hafter hright
    rw [visitEntry_of_isFolderEntry hentry] at hfirst
    obtain ⟨below, hbelow, rfl⟩ := map_eq_ok_iff.1 hfirst
    rcases List.mem_cons.1 hin with hself | hdeep
    · -- the folder is this entry
      obtain rfl := Finding.node.inj hself
      have hvisit : visitFolder codecs volume settings [] (path.child name)
          (folderId (path.child name).text) = .ok below := by
        rw [← hbelow]
        exact (visitFolder_of_leadsDeeper hlinks _ (path.child name) _ habsolute hchild []
          (.nil _ _)).symm
      have hsplit := SplitsAt.self (rootNode_child path name id) hvisit
      exact ⟨[name], _, _, _, List.cons_ne_nil _ _,
        hsplit.of_child.append (houtside []) (hbeyond [])⟩
    · -- the folder is found in this entry
      obtain ⟨names, before, inner, after, hne, hsplit⟩ :=
        ih (path.child name) _ below hbelow habsolute hchild hdeep
      have hnode : (folderNode (path.child name) name.text (some id)).sourcePath
          = (path.child name).text := rfl
      exact ⟨name :: names, _, _, _, List.cons_ne_nil _ _,
        (hsplit.cons hnode hne).of_child.append (houtside names) (hbeyond names)⟩

end

/-! ## What a folder contains -/

section

variable {volume : Volume} {settings : Settings} {root : Path} {result : WalkResult}
  {node parent folder : Node} {names : List Name}

/-- What a node contains stands at its path or, if it is a folder, at that of an entry. -/
theorem sourcePath_of_parent (hwalk : walk codecs volume settings root = .ok result)
    (hparent : parent ∈ result.snapshot.nodes) (hnode : node ∈ result.snapshot.nodes)
    (hid : node.parentId = some parent.id) :
    (∃ outer name, parent.sourcePath = ((walkStart volume root).below outer).text ∧
      node.sourcePath = ((walkStart volume root).below (outer ++ [name])).text) ∨
    (parent.kind ≠ folderKind ∧ node.sourcePath = parent.sourcePath) := by
  have hfolder : ∀ outer, node.parentId = some (folderId ((walkStart volume root).below outer).text)
      → parent.sourcePath = ((walkStart volume root).below outer).text := by
    intro outer hin
    rw [(isPlacedNode_of_walk hwalk hparent).eq_folderNodeAt (isAbsolute_walkStart volume root)
      (Option.some.inj (hid.symm.trans hin))]
    exact (folderNodeAt_spec _ outer).2.2
  cases isPlacedNode_of_walk hwalk hnode with
  | root => cases hid
  | folder outer name => exact .inl ⟨outer, name, hfolder outer rfl, rfl⟩
  | @file outer name => exact .inl ⟨outer, name, hfolder outer rfl, rfl⟩
  | definition hfile houtline hin =>
    obtain ⟨found, hfound, hdefined⟩ := exists_isDefinedIn hwalk hfile houtline hin
    obtain ⟨htree, -⟩ := exists_isMadeOf hwalk
    have hids := Option.some.inj (hid.symm.trans hdefined.parentId_eq)
    obtain rfl := htree.eq_of_id_eq hparent hfound hids
    refine .inr ⟨fun hkind => ?_, hdefined.sourcePath_eq.symm⟩
    rcases hdefined.parent_kind with ⟨hfileKind, -⟩ | ⟨hdefinition, -⟩
    · exact folderKind_ne_fileKind (hkind.symm.trans hfileKind)
    · rw [Node.isDefinition, hkind, isDefinition_folderKind] at hdefinition
      cases hdefinition

/-- What a folder contains stands below its path. -/
theorem exists_sourcePath_of_contains (hwalk : walk codecs volume settings root = .ok result)
    (hkind : folder.kind = folderKind)
    (hpath : folder.sourcePath = ((walkStart volume root).below names).text)
    (h : result.snapshot.Contains folder node) : ∃ name more,
      node.sourcePath = ((walkStart volume root).below (names ++ name :: more)).text := by
  have habsolute := isAbsolute_walkStart volume root
  induction h with
  | child hparent hnode hid =>
    rcases sourcePath_of_parent hwalk hparent hnode hid with
      ⟨outer, name, houter, hinner⟩ | ⟨hne, -⟩
    · obtain rfl := Path.below_inj_of_text_eq habsolute (houter.symm.trans hpath)
      exact ⟨name, [], hinner⟩
    · exact absurd hkind hne
  | deeper hparent hnode hid ih =>
    obtain ⟨name, more, hmore⟩ := ih
    rcases sourcePath_of_parent hwalk hparent.mem hnode hid with
      ⟨outer, last, houter, hinner⟩ | ⟨-, hsame⟩
    · obtain rfl := Path.below_inj_of_text_eq habsolute (houter.symm.trans hmore)
      exact ⟨name, more ++ [last], by rw [hinner, List.append_assoc, List.cons_append]⟩
    · exact ⟨name, more, hsame.trans hmore⟩

end

/-! ## Walks -/

/-- Whether what a text stands for is at a path or below it. -/
def Path.encloses (folder : Path) (text : String) : Bool :=
  (folder.stepsBelow? (ofText text)).isSome

section

variable {volume : Volume} {settings : Settings} {root : Path} {result : WalkResult}
  {folder : Node} {names more : List Name}

theorem encloses_below_iff :
    ((walkStart volume root).below names).encloses ((walkStart volume root).below more).text = true
      ↔ names <+: more := by
  rw [Path.encloses, ofText_text_below_walkStart, Path.stepsBelow?]
  simp only [Path.below, Path.extend, decide_true, Bool.true_and]
  split
  case isTrue h =>
    refine iff_of_true rfl ?_
    rw [List.isPrefixOf_iff_prefix, List.prefix_append_right_inj] at h
    exact (List.prefix_map_iff_of_injective fun _ _ => Step.down.inj).1 h
  case isFalse h =>
    refine iff_of_false Bool.false_ne_true fun hprefix => h ?_
    rw [List.isPrefixOf_iff_prefix, List.prefix_append_right_inj]
    exact hprefix.map Step.down

/-- A walk from a path below the start of another starts there. -/
theorem walkStart_below (volume : Volume) (root : Path) (names : List Name) :
    walkStart volume ((walkStart volume root).below names)
      = (walkStart volume root).below names := by
  refine Path.absolute_of_down (isAbsolute_walkStart volume root) fun step hstep => ?_
  rcases List.mem_append.1 hstep with hstart | hbelow
  · exact Path.exists_down_of_mem_absolute (Location.isAbsolute_path _) root step hstart
  · obtain ⟨name, -, rfl⟩ := List.mem_map.1 hbelow
    exact ⟨name, rfl⟩

/-- Without links followed, the findings of a walk are cut at every folder. -/
theorem exists_splitsAt_of_walk (hlinks : settings.followLinks.isTrue = false) {start : Path}
    {found : List Finding} (habsolute : start.isAbsolute = true)
    (h : visitFolder codecs volume settings [] start (rootNode start).id = .ok found)
    (hfolder : .node folder ∈ Finding.node (rootNode start) :: found)
    (hkind : folder.kind = folderKind) :
    ∃ names left inner right,
      SplitsAt codecs volume settings start (.node (rootNode start) :: found)
      folder names left inner right := by
  rcases List.mem_cons.1 hfolder with hself | hbelow
  · obtain rfl := Finding.node.inj hself
    exact ⟨[], [], found, [], .self rfl h⟩
  · obtain ⟨names, left, inner, right, hne, hsplit⟩ := exists_splitsAt_of_visitFolder hlinks hkind
      [] start _ found h habsolute (.nil _ _) hbelow
    exact ⟨names, _, inner, right, hsplit.cons rfl hne⟩

/-- A folder at which findings are cut contains the nodes that are found in it, and no other. -/
theorem SplitsAt.contains_iff {found left inner right : List Finding}
    (h : SplitsAt codecs volume settings (walkStart volume root)
      (.node (rootNode (walkStart volume root)) :: found) folder names left inner right)
    (hwalk : walk codecs volume settings root
      = .ok (WalkResult.ofFound (walkStart volume root) found)) (node : Node) :
    (WalkResult.ofFound (walkStart volume root) found).snapshot.Contains folder node
      ↔ node ∈ inner.filterMap Finding.node? := by
  have habsolute := isAbsolute_walkStart volume root
  obtain ⟨hkind, hplace, hfolder⟩ := h.folder_spec
  have hnodes : (WalkResult.ofFound (walkStart volume root) found).snapshot.nodes
      = left.filterMap Finding.node?
        ++ folder :: (inner.filterMap Finding.node? ++ right.filterMap Finding.node?) := h.nodes_eq
  constructor
  · intro hcontains
    obtain ⟨name, more, hpath⟩ := exists_sourcePath_of_contains hwalk hkind hplace hcontains
    -- what stands below the folder is neither it nor outside
    have houtside : ∀ finding ∈ left ++ right, finding.node? ≠ some node := by
      intro finding hfinding hsome
      obtain ⟨others, htext, hothers⟩ := h.outside finding hfinding
      rw [← finding.sourcePath_of_node? node hsome, hpath] at htext
      obtain rfl := Path.below_inj_of_text_eq habsolute htext
      exact hothers (List.prefix_append _ _)
    have hmem := hcontains.mem
    rw [hnodes] at hmem
    rcases List.mem_append.1 hmem with hleft | hmem
    · obtain ⟨finding, hfinding, hsome⟩ := List.mem_filterMap.1 hleft
      exact absurd hsome (houtside finding (List.mem_append_left _ hfinding))
    rcases List.mem_cons.1 hmem with rfl | hmem
    · have hnames := Path.below_inj_of_text_eq habsolute (hplace.symm.trans hpath)
      simp at hnames
    rcases List.mem_append.1 hmem with hinner | hright
    · exact hinner
    · obtain ⟨finding, hfinding, hsome⟩ := List.mem_filterMap.1 hright
      exact absurd hsome (houtside finding (List.mem_append_right _ hfinding))
  · intro hmem
    obtain ⟨entries, hentries, trees, hinner, htrees⟩ := areEntries_visitFolder [] _ _ _ h.visit_eq
    have htree := htrees.isContainment_folder folder.label folder.parentId hentries
    rw [← hfolder] at htree
    rw [hinner] at hmem
    refine htree.contains (fun other hother => ?_) node hmem
    rw [hnodes]
    refine List.mem_append_right _ ?_
    rw [NodeTree.preorder, ← hinner] at hother
    rcases List.mem_cons.1 hother with rfl | hbelow
    · exact List.mem_cons_self
    · exact List.mem_cons_of_mem _ (List.mem_append_left _ hbelow)

/-- Of what is skipped, what is at or below a folder at which findings are cut is skipped in it. -/
theorem SplitsAt.skipped_eq {found left inner right : List Finding}
    (h : SplitsAt codecs volume settings (walkStart volume root)
      (.node (rootNode (walkStart volume root)) :: found) folder names left inner right) :
    (WalkResult.ofFound (walkStart volume root) found).skipped.filter
        (fun entry => ((walkStart volume root).below names).encloses entry.1)
      = inner.filterMap Finding.skipped? := by
  have hskipped : (WalkResult.ofFound (walkStart volume root) found).skipped
      = left.filterMap Finding.skipped?
        ++ (inner.filterMap Finding.skipped? ++ right.filterMap Finding.skipped?) := by
    have hall : (WalkResult.ofFound (walkStart volume root) found).skipped
        = (Finding.node (rootNode (walkStart volume root)) :: found).filterMap
          Finding.skipped? := rfl
    rw [hall, h.found_eq, List.filterMap_append, List.filterMap_cons, Finding.skipped?,
      List.filterMap_append]
  have houtside : ∀ findings : List Finding, (∀ finding ∈ findings, finding ∈ left ++ right) →
      (findings.filterMap Finding.skipped?).filter
        (fun entry => ((walkStart volume root).below names).encloses entry.1) = [] := by
    intro findings hfindings
    refine List.filter_eq_nil_iff.2 fun entry hentry => ?_
    obtain ⟨finding, hfinding, hsome⟩ := List.mem_filterMap.1 hentry
    obtain ⟨more, htext, hmore⟩ := h.outside finding (hfindings finding hfinding)
    rw [finding.path_of_skipped? entry hsome, htext, encloses_below_iff]
    exact hmore
  have hinside : (inner.filterMap Finding.skipped?).filter
      (fun entry => ((walkStart volume root).below names).encloses entry.1)
        = inner.filterMap Finding.skipped? := by
    refine List.filter_eq_self.2 fun entry hentry => ?_
    obtain ⟨finding, hfinding, hsome⟩ := List.mem_filterMap.1 hentry
    obtain ⟨more, htext⟩ := exists_pathText_of_visitFolder _ _ _ _ h.visit_eq finding hfinding
    rw [finding.path_of_skipped? entry hsome, htext, ← Path.below_append, encloses_below_iff]
    exact List.prefix_append _ _
  rw [hskipped, List.filter_append, List.filter_append, hinside,
    houtside left fun _ hin => List.mem_append_left _ hin,
    houtside right fun _ hin => List.mem_append_right _ hin, List.nil_append, List.append_nil]

/-- Without links followed, scanning is compositional: a walk from the path of a folder of another
    walk returns, and gives the block of the folder and what it contains there, with the folder as
    the root; and it skips what is skipped there at the path of the folder or below it. -/
theorem walk_of_folder (hlinks : settings.followLinks.isTrue = false)
    (hwalk : walk codecs volume settings root = .ok result)
    (hfolder : folder ∈ result.snapshot.nodes)
    (hkind : folder.kind = folderKind) :
    ∃ inner before below after,
      walk codecs volume settings (Path.ofText folder.sourcePath) = .ok inner ∧
      result.snapshot.nodes = before ++ folder :: (below ++ after) ∧
      (∀ node, result.snapshot.Contains folder node ↔ node ∈ below) ∧
      inner.snapshot.nodes = { folder with parentId := none } :: below ∧
      inner.skipped = result.skipped.filter fun entry =>
        (Path.ofText folder.sourcePath).encloses entry.1 := by
  obtain ⟨found, hfound⟩ := exists_walk_eq_ok_iff.1 ⟨result, hwalk⟩
  obtain rfl := Except.ok.inj (hwalk.symm.trans (walk_eq_of_visitFolder hfound).1)
  have hin : .node folder ∈ Finding.node (rootNode (walkStart volume root)) :: found := by
    rw [WalkResult.nodes_ofFound] at hfolder
    rcases List.mem_cons.1 hfolder with rfl | hbelow
    · exact List.mem_cons_self
    · obtain ⟨finding, hfinding, hsome⟩ := List.mem_filterMap.1 hbelow
      cases finding with
      | node => exact Option.some.inj hsome ▸ List.mem_cons_of_mem _ hfinding
      | skipped => cases hsome
  obtain ⟨names, left, inner, right, hsplit⟩ :=
    exists_splitsAt_of_walk hlinks (isAbsolute_walkStart volume root) hfound hin hkind
  have hpath : Path.ofText folder.sourcePath = (walkStart volume root).below names := by
    rw [hsplit.folder_spec.2.1, ofText_text_below_walkStart]
  -- the walk from the path of the folder starts there and visits it alone
  have hstart := walkStart_below volume root names
  have hvisit := hsplit.visit_eq
  rw [← hstart] at hvisit
  have hinner := (walk_eq_of_visitFolder hvisit).1
  rw [hstart] at hinner
  rw [hpath]
  refine ⟨_, _, _, _, hinner, hsplit.nodes_eq, hsplit.contains_iff hwalk, ?_,
    hsplit.skipped_eq.symm⟩
  rw [WalkResult.nodes_ofFound, hsplit.folder_eq]

end

/-- The node of the inner folder of the nested repository. -/
def nestedFolder : Node where
  id := "folder:/repo/a"
  label := "a"
  kind := folderKind
  sourcePath := "/repo/a"
  parentId := some "folder:/repo"

/-- Settings under which links to folders are not followed. -/
def nestedSettings : Settings where
  followLinks := .bool false

/-- The walk of the inner folder gives its file and the definitions in that, below the folder. -/
theorem walk_of_nestedFolder :
    nestedSettings.followLinks.isTrue = false ∧
    ∃ result inner below,
      walk Encoding.codecs nestedRepository nestedSettings (Path.ofText "/repo") = .ok result ∧
      nestedFolder ∈ result.snapshot.nodes ∧ nestedFolder.kind = folderKind ∧
      walk Encoding.codecs nestedRepository nestedSettings (Path.ofText "/repo/a") = .ok inner ∧
      (∀ node, result.snapshot.Contains nestedFolder node ↔ node ∈ below) ∧
      inner.snapshot.nodes = { nestedFolder with parentId := none } :: below ∧
      below.map (·.label) = ["b.py", "A", "f", "g"] := by
  have hlinks : nestedSettings.followLinks.isTrue = false := by decide
  have hwalk : (walk Encoding.codecs nestedRepository nestedSettings (Path.ofText "/repo")).map
      (·.snapshot.nodes[1]?)
      = .ok (some nestedFolder) := by decide +kernel
  have hlabels : (walk Encoding.codecs nestedRepository nestedSettings (Path.ofText "/repo/a")).map
      (·.snapshot.nodes.tail.map (·.label)) = .ok ["b.py", "A", "f", "g"] := by decide +kernel
  obtain ⟨result, hresult, hsecond⟩ := map_eq_ok_iff.1 hwalk
  have hfolder : nestedFolder ∈ result.snapshot.nodes := List.mem_of_getElem? hsecond.symm
  obtain ⟨inner, -, below, -, hinner, -, hcontains, hnodes, -⟩ :=
    walk_of_folder hlinks hresult hfolder rfl
  have hpath : nestedFolder.sourcePath = "/repo/a" := rfl
  rw [hpath] at hinner
  rw [hinner] at hlabels
  have htail : inner.snapshot.nodes.tail.map (·.label) = ["b.py", "A", "f", "g"] :=
    Except.ok.inj hlabels
  rw [hnodes, List.tail_cons] at htail
  exact ⟨hlinks, result, inner, below, hresult, hfolder, rfl, hinner, hcontains, hnodes, htail⟩

end SourceOutline
