import SourceOutline.Proofs.Repository.Difference
import SourceOutline.Proofs.Repository.Order

set_option autoImplicit false

/-! # Leaving out one more name

When one more name is left out, a walk finds what it has found before, in the same order, without
what stands at or below an entry of that name (`walk_excluding`). An entry of that name now gives
nothing, and every finding of its visit stands under its path (`exists_pathText_of_visitEntry`). Any
other entry is visited as before: the folders that are open on the way to it are the same, so what
is a cycle stays one (`visitFolder_excluding`). -/

namespace SourceOutline

variable {codecs : Codecs}

/-! ## One more name -/

/-- Settings that leave out one more name. -/
def Settings.excluding (settings : Settings) (name : String) : Settings :=
  { settings with exclude := settings.exclude ++ [.text name] }

theorem Settings.isExcluded_excluding (settings : Settings) (name other : String) :
    (settings.excluding name).isExcluded other = (settings.isExcluded other || name == other) := by
  simp [isExcluded, excluding, Value.isText, Bool.or_assoc]

/-- Whether the way from a path down to what a text stands for goes through an entry with some
    name. -/
def Path.passesThrough (start : Path) (name text : String) : Bool :=
  (start.stepsBelow? (ofText text)).any fun steps => steps.any (·.text == name)

theorem passesThrough_below (volume : Volume) (root : Path) (name : String) (names : List Name) :
    (walkStart volume root).passesThrough name ((walkStart volume root).below names).text
      = names.any (·.text == name) := by
  rw [Path.passesThrough, ofText_text_below_walkStart, Path.stepsBelow?_below, Option.any_some,
    List.any_map]
  rfl

/-! ## Where findings stand -/

/-- The text of the path of a finding. -/
def Finding.pathText : Finding → String
  | node n => n.sourcePath
  | skipped path _ => path.text

section

variable {volume : Volume} {settings : Settings} {entered : List Location} {location : Location}
  {path : Path} {name : Name} {id : String} {found : List Finding}
  {enter other : Path → String → Except ScanFault (List Finding)}

theorem Finding.sourcePath_of_node? (finding : Finding) (node : Node)
    (h : finding.node? = some node) : node.sourcePath = finding.pathText := by
  cases finding with
  | node => rw [← Option.some.inj h]; rfl
  | skipped => cases h

theorem Finding.path_of_skipped? (finding : Finding) (entry : String × String)
    (h : finding.skipped? = some entry) : entry.1 = finding.pathText := by
  cases finding with
  | node => cases h
  | skipped => rw [← Option.some.inj h]; rfl

theorem pathText_of_visitFile (h : visitFile codecs volume settings path name id = .ok found) :
    ∀ finding ∈ found, finding.pathText = path.text := by
  rcases visitFile_eq_ok h with ⟨reason, -, rfl⟩ | ⟨text, nodes, houtline, rfl⟩
  · simp [Finding.pathText, fileNode]
  · obtain ⟨snippetLines, rfl⟩ := ScanOptions.eq_outlineWith houtline
    refine List.forall_mem_cons.2 ⟨rfl, fun finding hfinding => ?_⟩
    obtain ⟨node, hnode, rfl⟩ := List.mem_map.1 hfinding
    exact (ScanOptions.isDefinitionIn_of_mem node hnode).sourcePath_eq

theorem pathText_of_visitEntry (hfolder : ¬ IsFolderEntry volume settings location path name)
    (h : visitEntry codecs volume settings location path id enter name = .ok found) :
    ∀ finding ∈ found, finding.pathText = (path.child name).text := by
  by_cases hfile : IsFileEntry volume settings location path name
  · rw [visitEntry_of_isFileEntry hfile] at h
    exact pathText_of_visitFile h
  rcases visitEntry_of_neither hfolder hfile with ⟨fault, -, herror⟩ | hempty | ⟨reason, -, hskip⟩
  · cases herror.symm.trans h
  · obtain rfl := Except.ok.inj (hempty.symm.trans h)
    exact fun _ hfinding => absurd hfinding List.not_mem_nil
  · obtain rfl := Except.ok.inj (hskip.symm.trans h)
    simp [Finding.pathText]

/-- What is found at an entry stands at or below its path, if this holds of folders. -/
theorem exists_pathText_of_visitEntry
    (henter : ∀ childId below, enter (path.child name) childId = .ok below →
      ∀ finding ∈ below, ∃ more, finding.pathText = ((path.child name).below more).text)
    (h : visitEntry codecs volume settings location path id enter name = .ok found) :
    ∀ finding ∈ found, ∃ more, finding.pathText = ((path.child name).below more).text := by
  by_cases hfolder : IsFolderEntry volume settings location path name
  · rw [visitEntry_of_isFolderEntry hfolder] at h
    obtain ⟨below, hbelow, rfl⟩ := map_eq_ok_iff.1 h
    refine List.forall_mem_cons.2 ⟨⟨[], ?_⟩, henter _ below hbelow⟩
    rw [Path.below_nil]
    rfl
  · intro finding hfinding
    refine ⟨[], ?_⟩
    rw [Path.below_nil]
    exact pathText_of_visitEntry hfolder h finding hfinding

/-- A finding at entries is cut out with the findings of its entry. -/
theorem exists_split_of_visitEntries {visit : Name → Except ScanFault (List Finding)}
    {names : List Name} :
    ∀ {found : List Finding}, visitEntries visit names = .ok found → ∀ finding ∈ found,
      ∃ before name after left first right, names = before ++ name :: after ∧
        visitEntries visit before = .ok left ∧ visit name = .ok first ∧
        visitEntries visit after = .ok right ∧ found = left ++ first ++ right ∧
        finding ∈ first := by
  induction names with
  | nil =>
    intro found h finding hfinding
    obtain rfl := Except.ok.inj h
    exact absurd hfinding List.not_mem_nil
  | cons name rest ih =>
    intro found h finding hfinding
    obtain ⟨first, others, hfirst, hothers, rfl⟩ := visitEntries_cons_eq_ok_iff.1 h
    rcases List.mem_append.1 hfinding with hnow | hlater
    · exact ⟨[], name, rest, [], first, others, rfl, rfl, hfirst, hothers, rfl, hnow⟩
    · obtain ⟨before, other, after, left, middle, right, rfl, hleft, hmiddle, hright, rfl, hin⟩ :=
        ih hothers finding hlater
      refine ⟨name :: before, other, after, first ++ left, middle, right, rfl, ?_, hmiddle, hright,
        by simp only [List.append_assoc], hin⟩
      exact visitEntries_cons_eq_ok_iff.2 ⟨first, left, hfirst, hleft, rfl⟩

theorem exists_mem_of_visitEntries {visit : Name → Except ScanFault (List Finding)}
    {names : List Name} {found : List Finding} (h : visitEntries visit names = .ok found) :
    ∀ finding ∈ found, ∃ name ∈ names, ∃ first, visit name = .ok first ∧ finding ∈ first := by
  intro finding hfinding
  obtain ⟨before, name, after, -, first, -, rfl, -, hfirst, -, -, hin⟩ :=
    exists_split_of_visitEntries h finding hfinding
  exact ⟨name, List.mem_append_right _ List.mem_cons_self, first, hfirst, hin⟩

theorem exists_pathText_of_visitFolder (entered : List Location) (path : Path) (id : String) :
    ∀ found, visitFolder codecs volume settings entered path id = .ok found →
      ∀ finding ∈ found, ∃ more, finding.pathText = (path.below more).text := by
  fun_induction visitFolder codecs volume settings entered path id with
  | case1 entered path id hnull =>
    intro found h
    cases h
  | case2 entered path id hnull hentered =>
    intro found h finding hfinding
    obtain rfl := Except.ok.inj h
    rw [List.mem_singleton.1 hfinding]
    exact ⟨[], by rw [Path.below_nil]; rfl⟩
  | case3 entered path id hnull hentered fault hopen =>
    intro found h finding hfinding
    obtain rfl := Except.ok.inj h
    rw [List.mem_singleton.1 hfinding]
    exact ⟨[], by rw [Path.below_nil]; rfl⟩
  | case4 entered path id hnull hentered location hopen ih =>
    intro found h finding hfinding
    obtain ⟨name, -, first, hfirst, hin⟩ := exists_mem_of_visitEntries h finding hfinding
    obtain ⟨more, hmore⟩ :=
      exists_pathText_of_visitEntry (fun childId => ih (path.child name) childId) hfirst finding hin
    exact ⟨name :: more, by rw [hmore, Path.below_cons]⟩

/-! ## Visits without a name -/

/-- An entry of another name that is not gone into is visited as before. -/
theorem visitEntry_excluding {excluded : String} (hname : name.text ≠ excluded) :
    visitEntry codecs volume (settings.excluding excluded) location path id enter name
      = visitEntry codecs volume settings location path id enter name := by
  have hincluded : (settings.excluding excluded).isExcluded name.text
      = settings.isExcluded name.text := by
    rw [Settings.isExcluded_excluding, beq_eq_false_iff_ne.2 hname.symm, Bool.or_false]
  have hlinks : (settings.excluding excluded).followLinks = settings.followLinks := rfl
  have hsupported : (settings.excluding excluded).isSupported name.text
      = settings.isSupported name.text := rfl
  have hfile : visitFile codecs volume (settings.excluding excluded) (path.child name) name id
      = visitFile codecs volume settings (path.child name) name id := rfl
  simp only [visitEntry, hincluded, hlinks, hsupported, hfile]

/-- If each entry gives what passes a test, so do entries one after another. -/
theorem visitEntries_filter_found {visit other : Name → Except ScanFault (List Finding)}
    {test : Finding → Bool} {names : List Name}
    (h : ∀ name ∈ names, ∀ first, visit name = .ok first → other name = .ok (first.filter test)) :
    ∀ found, visitEntries visit names = .ok found →
      visitEntries other names = .ok (found.filter test) := by
  induction names with
  | nil =>
    intro found hfound
    obtain rfl := Except.ok.inj hfound
    rfl
  | cons name rest ih =>
    intro found hfound
    obtain ⟨hname, hrest⟩ := List.forall_mem_cons.1 h
    obtain ⟨first, others, hfirst, hothers, rfl⟩ := visitEntries_cons_eq_ok_iff.1 hfound
    exact visitEntries_cons_eq_ok_iff.2 ⟨_, _, hname first hfirst, ih hrest others hothers,
      List.filter_append _ _⟩

end

/-! ## Visits below the start of a walk -/

section

variable {volume : Volume} {settings : Settings} {root : Path} {excluded : String}
  {names : List Name}

/-- Whether no entry with a name is on the way from a path down to a finding. -/
def Finding.avoids (start : Path) (name : String) (finding : Finding) : Bool :=
  !start.passesThrough name finding.pathText

theorem Finding.avoids_eq {finding : Finding}
    (h : finding.pathText = ((walkStart volume root).below names).text) :
    finding.avoids (walkStart volume root) excluded = !names.any (·.text == excluded) := by
  rw [avoids, h, passesThrough_below]

/-- Findings at a path stay if the name is not on the way to it. -/
theorem Finding.filter_avoids_eq_self {found : List Finding}
    (hnames : names.any (·.text == excluded) = false)
    (h : ∀ finding ∈ found, finding.pathText = ((walkStart volume root).below names).text) :
    found.filter (Finding.avoids (walkStart volume root) excluded) = found := by
  refine List.filter_eq_self.2 fun finding hfinding => ?_
  rw [avoids_eq (h finding hfinding), hnames, Bool.not_false]

/-- Findings at or below a path go if the name is on the way to it. -/
theorem Finding.filter_avoids_eq_nil {found : List Finding}
    (hnames : names.any (·.text == excluded) = true)
    (h : ∀ finding ∈ found, ∃ more,
      finding.pathText = (((walkStart volume root).below names).below more).text) :
    found.filter (Finding.avoids (walkStart volume root) excluded) = [] := by
  refine List.filter_eq_nil_iff.2 fun finding hfinding => ?_
  obtain ⟨more, hmore⟩ := h finding hfinding
  rw [← Path.below_append] at hmore
  rw [avoids_eq hmore, List.any_append, hnames]
  simp

/-- An entry gives what it has given before, without the findings at or below the name, if this
    holds of folders. -/
theorem visitEntry_excluding_eq_ok {location : Location} {name : Name} {id : String}
    {found : List Finding} {enter other : Path → String → Except ScanFault (List Finding)}
    (hnames : names.any (·.text == excluded) = false)
    (hlocated : ∀ childId below,
      enter (((walkStart volume root).below names).child name) childId = .ok below →
      ∀ finding ∈ below, ∃ more,
        finding.pathText = ((((walkStart volume root).below names).child name).below more).text)
    (henter : name.text ≠ excluded → ∀ childId below,
      enter (((walkStart volume root).below names).child name) childId = .ok below →
      other (((walkStart volume root).below names).child name) childId
        = .ok (below.filter (Finding.avoids (walkStart volume root) excluded)))
    (h : visitEntry codecs volume settings location ((walkStart volume root).below names) id
      enter name
      = .ok found) :
    visitEntry codecs volume (settings.excluding excluded) location
      ((walkStart volume root).below names)
        id other name
      = .ok (found.filter (Finding.avoids (walkStart volume root) excluded)) := by
  have hchild := Path.child_below (walkStart volume root) names name
  have hway : (names ++ [name]).any (·.text == excluded) = (name.text == excluded) := by
    simp [hnames]
  by_cases hname : name.text = excluded
  · -- everything found at the entry stands at or below it
    have hlocatedEntry := exists_pathText_of_visitEntry hlocated h
    rw [hchild] at hlocatedEntry
    have hexcluded : (settings.excluding excluded).isExcluded name.text = true := by
      rw [Settings.isExcluded_excluding, hname, beq_self_eq_true, Bool.or_true]
    rw [Finding.filter_avoids_eq_nil (hway.trans (beq_iff_eq.2 hname)) hlocatedEntry,
      visitEntry_of_isExcluded hexcluded]
  have hstays : (names ++ [name]).any (·.text == excluded) = false :=
    hway.trans (beq_eq_false_iff_ne.2 hname)
  rw [visitEntry_excluding hname]
  by_cases hfolder : IsFolderEntry volume settings location ((walkStart volume root).below names)
      name
  · rw [visitEntry_of_isFolderEntry hfolder] at h ⊢
    obtain ⟨below, hbelow, rfl⟩ := map_eq_ok_iff.1 h
    rw [henter hname _ below hbelow, List.filter_cons_of_pos]
    · rfl
    · exact (Finding.avoids_eq (hchild ▸ rfl)).trans (congrArg not hstays)
  · have hplaced := pathText_of_visitEntry hfolder h
    rw [hchild] at hplaced
    rw [visitEntry_of_not_isFolderEntry hfolder id other enter, h,
      Finding.filter_avoids_eq_self hstays hplaced]

/-- A folder that is not at or below the name gives what it has given before, without the findings
    that are. -/
theorem visitFolder_excluding (excluded : String) (entered : List Location) (path : Path)
    (id : String) :
    ∀ names found, path = (walkStart volume root).below names →
      names.any (·.text == excluded) = false →
      visitFolder codecs volume settings entered path id = .ok found →
      visitFolder codecs volume (settings.excluding excluded) entered path id
        = .ok (found.filter (Finding.avoids (walkStart volume root) excluded)) := by
  fun_induction visitFolder codecs volume settings entered path id with
  | case1 entered path id hnull =>
    rintro names found - - h
    cases h
  | case2 entered path id hnull hentered =>
    rintro names found rfl hnames h
    obtain rfl := Except.ok.inj h
    rw [visitFolder, if_neg hnull, dif_pos hentered,
      Finding.filter_avoids_eq_self hnames (List.forall_mem_singleton.2 rfl)]
  | case3 entered path id hnull hentered fault hopen =>
    rintro names found rfl hnames h
    obtain rfl := Except.ok.inj h
    rw [visitFolder_of_error (Bool.eq_false_iff.2 hnull) (Bool.eq_false_iff.2 hentered) hopen,
      Finding.filter_avoids_eq_self hnames (List.forall_mem_singleton.2 rfl)]
  | case4 entered path id hnull hentered location hopen ih =>
    rintro names found rfl hnames h
    have hopens : Opens volume entered ((walkStart volume root).below names) location :=
      ⟨Bool.eq_false_iff.2 hnull, Bool.eq_false_iff.2 hentered, hopen⟩
    rw [visitFolder_of_opens hopens]
    refine visitEntries_filter_found (fun name _ first hfirst => ?_) found h
    refine visitEntry_excluding_eq_ok hnames
      (fun childId => exists_pathText_of_visitFolder _ _ childId) (fun hname childId below => ?_)
      hfirst
    refine ih _ childId (names ++ [name]) below (Path.child_below _ names name) ?_
    simp [hnames, hname]

end

/-! ## Walks -/

/-- If what is taken of a finding passes a test exactly if the finding does, what is taken of the
    findings that pass is what is taken of all and passes. -/
theorem filterMap_filter_findings {α : Type} {take : Finding → Option α} {test : Finding → Bool}
    {keep : α → Bool} (h : ∀ finding a, take finding = some a → keep a = test finding)
    (found : List Finding) :
    (found.filter test).filterMap take = (found.filterMap take).filter keep := by
  rw [List.filterMap_filter, List.filter_filterMap]
  refine List.filterMap_congr fun finding _ => ?_
  cases htake : take finding with
  | none => simp
  | some a =>
    rw [← h finding a htake]
    cases htest : keep a <;> simp [Option.filter_some, htest]

/-- What is taken of the findings whose paths pass a test is what is taken of all and passes it. -/
theorem filterMap_filter_pathText {α : Type} {take : Finding → Option α} {pathText : α → String}
    (h : ∀ finding a, take finding = some a → pathText a = finding.pathText)
    (test : String → Bool) (found : List Finding) :
    (found.filter fun finding => test finding.pathText).filterMap take
      = (found.filterMap take).filter fun a => test (pathText a) :=
  filterMap_filter_findings (fun finding a htake => congrArg test (h finding a htake)) found

/-- If some nodes of a tree make a tree of their own, its edges are those of the whole tree that run
    between them. -/
theorem Snapshot.IsTree.edges_filter {snapshot pruned : Snapshot} {root : Node} {test : Node → Bool}
    (h : snapshot.IsTree root) (hpruned : pruned.IsTree root)
    (hedges : snapshot.edges = snapshot.nodes.filterMap Node.parentEdge?)
    (hprunedEdges : pruned.edges = pruned.nodes.filterMap Node.parentEdge?)
    (hnodes : pruned.nodes = snapshot.nodes.filter test) :
    pruned.edges = snapshot.edges.filter fun edge =>
      pruned.ids.contains edge.source && pruned.ids.contains edge.target := by
  rw [hprunedEdges, hedges, hnodes, List.filterMap_filter, List.filter_filterMap]
  refine List.filterMap_congr fun node hnode => ?_
  cases hedge : node.parentEdge? with
  | none => simp
  | some edge =>
    obtain ⟨parent, hparent, rfl⟩ := Option.map_eq_some_iff.1 hedge
    cases htest : test node with
    | true =>
      -- a node that stays has its parent among those that stay
      have hstays : node ∈ pruned.nodes := hnodes ▸ List.mem_filter.2 ⟨hnode, htest⟩
      obtain ⟨found, hfound, hid⟩ := hpruned.exists_parent_of_mem hstays hparent
      have hsource : parent ∈ pruned.ids := hid ▸ List.mem_map_of_mem hfound
      have htarget : node.id ∈ pruned.ids := List.mem_map_of_mem hstays
      simp [Option.filter_some, hsource, htarget]
    | false =>
      have htarget : node.id ∉ pruned.ids := by
        intro hid
        obtain ⟨found, hfound, hsame⟩ := List.mem_map.1 hid
        obtain ⟨hmem, hpasses⟩ := List.mem_filter.1 (hnodes ▸ hfound)
        rw [h.eq_of_id_eq hmem hnode hsame] at hpasses
        cases hpasses.symm.trans htest
      simp [Option.filter_some, htarget]

theorem WalkResult.nodes_ofFound (start : Path) (found : List Finding) :
    (ofFound start found).snapshot.nodes = rootNode start :: found.filterMap Finding.node? := rfl

/-- Leaving out one more name leaves out of the result of a walk what stands at or below an entry of
    that name, and nothing else: the other nodes stay in order, with the edges between them, and so
    do the other paths that are skipped. -/
theorem walk_excluding {volume : Volume} {settings : Settings} {root : Path} {result : WalkResult}
    (hwalk : walk codecs volume settings root = .ok result) (name : String) :
    ∃ pruned, walk codecs volume (settings.excluding name) root = .ok pruned ∧
      pruned.snapshot.nodes = result.snapshot.nodes.filter (fun node =>
        !(walkStart volume root).passesThrough name node.sourcePath) ∧
      pruned.snapshot.edges = result.snapshot.edges.filter (fun edge =>
        pruned.snapshot.ids.contains edge.source && pruned.snapshot.ids.contains edge.target) ∧
      pruned.skipped = result.skipped.filter fun entry =>
        !(walkStart volume root).passesThrough name entry.1 := by
  obtain ⟨found, hfound⟩ := exists_walk_eq_ok_iff.1 ⟨result, hwalk⟩
  have hpruned := visitFolder_excluding name [] _ _ [] found (Path.below_nil _).symm rfl hfound
  obtain ⟨hresult, htree⟩ := walk_eq_of_visitFolder hfound
  obtain rfl := Except.ok.inj (hresult.symm.trans hwalk)
  obtain ⟨hprunedResult, hprunedTree⟩ := walk_eq_of_visitFolder hpruned
  have hself := passesThrough_below volume root name []
  rw [Path.below_nil] at hself
  have hroot : (!(walkStart volume root).passesThrough name
      (rootNode (walkStart volume root)).sourcePath) = true := congrArg not hself
  have hnodes : (WalkResult.ofFound (walkStart volume root) (found.filter
      (Finding.avoids (walkStart volume root) name))).snapshot.nodes
      = (WalkResult.ofFound (walkStart volume root) found).snapshot.nodes.filter
        fun node => !(walkStart volume root).passesThrough name node.sourcePath := by
    rw [WalkResult.nodes_ofFound, WalkResult.nodes_ofFound, List.filter_cons, if_pos hroot]
    exact congrArg _ (filterMap_filter_pathText Finding.sourcePath_of_node?
      (fun text => !(walkStart volume root).passesThrough name text) found)
  have hedges := htree.edges_filter hprunedTree rfl rfl hnodes
  refine ⟨_, hprunedResult, hnodes, hedges, ?_⟩
  exact filterMap_filter_pathText Finding.path_of_skipped?
    (fun text => !(walkStart volume root).passesThrough name text) found

/-- Without its file, a nested repository has its folders left. -/
theorem walk_excluding_nestedRepository :
    ∃ result pruned, walk Encoding.codecs nestedRepository {} (Path.ofText "/repo") = .ok result ∧
      walk Encoding.codecs nestedRepository (({} : Settings).excluding "b.py") (Path.ofText "/repo")
        = .ok pruned ∧
      pruned.snapshot.ids = ["folder:/repo", "folder:/repo/a"] := by
  have hwalk : (walk Encoding.codecs nestedRepository {} (Path.ofText "/repo")).map (fun result =>
      (result.snapshot.nodes.filter fun node =>
        !(walkStart nestedRepository (Path.ofText "/repo")).passesThrough "b.py"
          node.sourcePath).map (·.id))
        = .ok ["folder:/repo", "folder:/repo/a"] := by decide +kernel
  obtain ⟨result, hresult, hids⟩ := map_eq_ok_iff.1 hwalk
  obtain ⟨pruned, hpruned, hnodes, -, -⟩ := walk_excluding hresult "b.py"
  refine ⟨result, pruned, hresult, hpruned, ?_⟩
  rw [Snapshot.ids, hnodes, ← hids]

end SourceOutline
