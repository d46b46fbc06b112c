import SourceOutline.Proofs.Repository.PathReports

set_option autoImplicit false

/-! # A walk loses nothing and repeats nothing

What a walk gives is compared with what its volume holds below the root: each folder and file that
the walk comes to has one node, each file is followed by the outline of its text, and each path at
which something could not be told, listed or read is skipped once (`WalkResult.IsComplete`). All of
it is read off the reports that the findings fall into. -/

namespace SourceOutline

/-! ## What a complete result is -/

/-- Whether a node is of a kind and stands at a path. -/
def Node.standsAt (kind : String) (path : Path) (node : Node) : Bool :=
  node.kind == kind && node.sourcePath == path.text

section

variable (codecs : Codecs) (volume : Volume) (settings : Settings) (start : Path)

/-- A walk comes to something by some names, but cannot go into it, read it or tell what it is. -/
def IsSkippedPath (names : List Name) : Prop :=
  ((names = [] ∨ IsFolderPath volume settings start names) ∧
    (IsCyclePath volume start names ∨
      ∃ fault, volume.openFolder (start.below names) = .error fault)) ∨
  (IsFilePath volume settings start names ∧
    ∃ fault, readText codecs volume settings.encoding (start.below names) = .error fault) ∨
  IsBrokenPath volume settings start names

/-- A result that loses nothing below a path and repeats nothing. -/
structure WalkResult.IsComplete (result : WalkResult) : Prop where
  /-- There is a node for each folder that the walk comes to, and for no other. -/
  folder_iff : ∀ names, names ≠ [] →
    ((∃ node ∈ result.snapshot.nodes, node.standsAt folderKind (start.below names) = true) ↔
      IsFolderPath volume settings start names)
  /-- There is a node for each file that the walk reads, and for no other. -/
  file_iff : ∀ names,
    ((∃ node ∈ result.snapshot.nodes, node.standsAt fileKind (start.below names) = true) ↔
      IsFilePath volume settings start names)
  /-- No folder or file has two nodes. -/
  once : ∀ kind names, kind = folderKind ∨ kind = fileKind →
    result.snapshot.nodes.countP (Node.standsAt kind (start.below names)) ≤ 1
  /-- The node of a file is followed by the outline of its text, and nothing else of that kind. -/
  outline : ∀ names, IsFilePath volume settings start names →
    ∃ before file definitions after,
      result.snapshot.nodes = before ++ file :: (definitions ++ after) ∧
      file.standsAt fileKind (start.below names) = true ∧
      IsOutlineAt codecs volume settings (start.below names) definitions ∧
      ∀ next ∈ after.head?, next.isDefinition = false
  /-- Nothing but folders and files that the walk comes to, and what is in these files, has a
      node. -/
  origin : ∀ node ∈ result.snapshot.nodes, node = rootNode start ∨
    (∃ names, IsFolderPath volume settings start names ∧
      node.standsAt folderKind (start.below names) = true) ∨
    ∃ names, IsFilePath volume settings start names ∧
      (node.standsAt fileKind (start.below names) = true ∨
        ∃ definitions, IsOutlineAt codecs volume settings (start.below names) definitions ∧
          node ∈ definitions)
  /-- No path is skipped twice. -/
  skipped_nodup : (result.skipped.map (·.1)).Nodup
  /-- Skipped is what the walk comes to but cannot go into, read or tell, and nothing else. -/
  skipped_iff : ∀ text, text ∈ result.skipped.map (·.1) ↔
    ∃ names, IsSkippedPath codecs volume settings start names ∧ text = (start.below names).text

end

/-! ## The result in reports -/

section

variable {codecs : Codecs} {volume : Volume} {settings : Settings} {start : Path}
  {names : List Name}

/-- The nodes of a report. -/
def Report.nodes (report : Report) : List Node :=
  report.node?.toList ++ report.definitions

theorem filterMap_node?_flatMap (reports : List Report) :
    (reports.flatMap Report.findings).filterMap Finding.node? = reports.flatMap Report.nodes := by
  induction reports with
  | nil => rfl
  | cons report rest ih =>
    have hfirst : report.findings.filterMap Finding.node? = report.nodes := by
      simp [Report.findings, Report.nodes, List.filterMap_map, Function.comp_def, Finding.node?]
    rw [List.flatMap_cons, List.filterMap_append, hfirst, ih, List.flatMap_cons]

theorem map_filterMap_skipped?_flatMap (reports : List Report) :
    ((reports.flatMap Report.findings).filterMap Finding.skipped?).map (·.1)
      = (reports.filter (·.reason?.isSome)).map (·.path.text) := by
  induction reports with
  | nil => rfl
  | cons report rest ih =>
    have hfirst : (report.findings.filterMap Finding.skipped?).map (·.1)
        = ([report].filter (·.reason?.isSome)).map (·.path.text) := by
      have hnone : ∀ nodes : List Node, (nodes.map Finding.node).filterMap Finding.skipped? = [] :=
        fun nodes => by simp [Finding.skipped?]
      cases hreason : report.reason? <;>
        simp [Report.findings, hreason, hnone, Finding.skipped?]
    rw [List.flatMap_cons, List.filterMap_append, List.map_append, hfirst, ih, ← List.map_append,
      ← List.filter_append, List.singleton_append]

/-- A result consists of the node of the root and of reports, one for each path. -/
structure WalkResult.IsMadeOf (codecs : Codecs) (volume : Volume) (settings : Settings)
    (start : Path) (result : WalkResult) (reports : List Report) : Prop where
  nodes_eq : result.snapshot.nodes = rootNode start :: reports.flatMap Report.nodes
  skipped_eq : result.skipped.map (·.1)
    = (refusal? volume [] start).toList.map (fun _ => start.text)
      ++ (reports.filter (·.reason?.isSome)).map (·.path.text)
  distinct : (reports.map (·.path)).Nodup
  mem_iff : ∀ report, report ∈ reports ↔ IsReported codecs volume settings [] start report

/-- The result of a walk is made of what the walk reports. -/
theorem exists_isMadeOf {root : Path} {result : WalkResult}
    (h : walk codecs volume settings root = .ok result) :
    result.snapshot.IsTree (rootNode (walkStart volume root)) ∧
      ∃ reports, result.IsMadeOf codecs volume settings (walkStart volume root) reports := by
  cases hfound : visitFolder codecs volume settings [] (walkStart volume root)
      (rootNode (walkStart volume root)).id with
  | error fault => exact nomatch (walk_of_visitFolder_error hfound).symm.trans h
  | ok found =>
    obtain ⟨hwalk, htree⟩ := walk_eq_of_visitFolder hfound
    obtain rfl := Except.ok.inj (hwalk.symm.trans h)
    obtain ⟨rest, rfl, reports, rfl, hdistinct, hmem⟩ :=
      visitFolder_account volume settings [] (walkStart volume root) _ rfl found hfound
    refine ⟨htree, reports, ?_, ?_, hdistinct, hmem⟩
    · simp only [WalkResult.ofFound, GraphBuilder.build, GraphBuilder.ofNodes,
        List.filterMap_append, filterMap_node?_flatMap]
      cases refusal? volume [] (walkStart volume root) <;> rfl
    · simp only [WalkResult.ofFound, List.filterMap_append, List.map_append,
        map_filterMap_skipped?_flatMap]
      cases refusal? volume [] (walkStart volume root) <;> rfl

/-! ## What has a node -/

theorem countP_le_one {α β : Type} {items : List α} {key : α → β} {test : α → Bool} {b : β}
    (hdistinct : (items.map key).Nodup) (htest : ∀ a ∈ items, test a = true → key a = b) :
    items.countP test ≤ 1 := by
  have hall : (items.filter test).map key = List.replicate (items.filter test).length b := by
    refine List.eq_replicate_iff.2 ⟨List.length_map _, fun c hc => ?_⟩
    obtain ⟨a, ha, rfl⟩ := List.mem_map.1 hc
    exact htest a (List.mem_filter.1 ha).1 (List.mem_filter.1 ha).2
  have hnodup := hdistinct.sublist (List.filter_sublist (p := test) |>.map key)
  rw [hall, List.nodup_replicate] at hnodup
  rwa [List.countP_eq_length_filter]

/-- What a node of a walk is: the root, a folder or file that the walk comes to, or a definition in
    such a file. -/
inductive IsNodeOf (codecs : Codecs) (volume : Volume) (settings : Settings) (start : Path) :
    Node → Prop
  | root : IsNodeOf codecs volume settings start (rootNode start)
  | folder {names : List Name} {label : String} {parentId : Option String}
      (hfolder : IsFolderPath volume settings start names) :
      IsNodeOf codecs volume settings start (folderNode (start.below names) label parentId)
  | file {names : List Name} {label parentId : String}
      (hfile : IsFilePath volume settings start names) :
      IsNodeOf codecs volume settings start (fileNode (start.below names) label parentId)
  | definition {names : List Name} {nodes : List Node} {node : Node}
      (hfile : IsFilePath volume settings start names)
      (houtline : IsOutlineAt codecs volume settings (start.below names) nodes)
      (hnode : node ∈ nodes) :
      IsNodeOf codecs volume settings start node

theorem folderKind_ne_fileKind : folderKind ≠ fileKind := by
  decide

namespace IsNodeOf

variable {node : Node}

/-- A node of a folder stands at the root or at the path of a folder that the walk comes to. -/
theorem of_standsAt_folder (h : IsNodeOf codecs volume settings start node)
    (habsolute : start.isAbsolute = true)
    (hstands : node.standsAt folderKind (start.below names) = true) :
    node.id = folderId (start.below names).text ∧
      (names = [] ∨ IsFolderPath volume settings start names) := by
  rw [Node.standsAt, Bool.and_eq_true, beq_iff_eq, beq_iff_eq] at hstands
  obtain ⟨hkind, hpath⟩ := hstands
  cases h with
  | root =>
    have hself : (start.below []).text = (start.below names).text := by rwa [Path.below_nil]
    exact ⟨congrArg folderId hpath, .inl (Path.below_inj_of_text_eq habsolute hself).symm⟩
  | folder hfolder =>
    obtain rfl := Path.below_inj_of_text_eq habsolute hpath
    exact ⟨rfl, .inr hfolder⟩
  | file => exact absurd hkind.symm folderKind_ne_fileKind
  | definition _ houtline hnode =>
    have hdefines := houtline.isDefinition node hnode
    rw [Node.isDefinition, hkind] at hdefines
    exact absurd hdefines (by decide)

theorem of_standsAt_file (h : IsNodeOf codecs volume settings start node)
    (habsolute : start.isAbsolute = true)
    (hstands : node.standsAt fileKind (start.below names) = true) :
    node.id = fileId (start.below names).text ∧ IsFilePath volume settings start names := by
  rw [Node.standsAt, Bool.and_eq_true, beq_iff_eq, beq_iff_eq] at hstands
  obtain ⟨hkind, hpath⟩ := hstands
  cases h with
  | root => exact absurd hkind folderKind_ne_fileKind
  | folder => exact absurd hkind folderKind_ne_fileKind
  | file hfile =>
    obtain rfl := Path.below_inj_of_text_eq habsolute hpath
    exact ⟨rfl, hfile⟩
  | definition _ houtline hnode =>
    have hdefines := houtline.isDefinition node hnode
    rw [Node.isDefinition, hkind] at hdefines
    exact absurd hdefines (by decide)

end IsNodeOf

theorem isDefinition_folderKind : definitionKinds.contains folderKind = false := by
  decide

theorem isDefinition_fileKind : definitionKinds.contains fileKind = false := by
  decide

theorem Node.standsAt_folderNode {path : Path} (label : String) (parentId : Option String) :
    (folderNode path label parentId).standsAt folderKind path = true := by
  simp [standsAt, folderNode]

theorem Node.standsAt_fileNode {path : Path} (label parentId : String) :
    (fileNode path label parentId).standsAt fileKind path = true := by
  simp [standsAt, fileNode]

theorem head?_flatMap {reports : List Report}
    (h : ∀ report ∈ reports, ∀ next ∈ report.nodes.head?, next.isDefinition = false) :
    ∀ next ∈ (reports.flatMap Report.nodes).head?, next.isDefinition = false := by
  induction reports with
  | nil => exact fun next hnext => nomatch hnext
  | cons report rest ih =>
    obtain ⟨hfirst, hrest⟩ := List.forall_mem_cons.1 h
    rw [List.flatMap_cons]
    cases hnodes : report.nodes with
    | nil => exact ih hrest
    | cons node others =>
      rw [hnodes] at hfirst
      exact hfirst

/-! ## The result is complete -/

namespace WalkResult.IsMadeOf

variable {result : WalkResult} {reports : List Report}

theorem mem_nodes {report : Report} {node : Node}
    (h : result.IsMadeOf codecs volume settings start reports) (hreport : report ∈ reports)
    (hnode : report.node? = some node) : node ∈ result.snapshot.nodes := by
  rw [h.nodes_eq]
  refine List.mem_cons_of_mem _ (List.mem_flatMap.2 ⟨report, hreport, ?_⟩)
  rw [Report.nodes, hnode]
  exact List.mem_cons_self

variable (h : result.IsMadeOf codecs volume settings start reports)
  (habsolute : start.isAbsolute = true)
  (hplain : start.hasNull = false)

include h habsolute hplain

theorem isNodeOf : ∀ node ∈ result.snapshot.nodes, IsNodeOf codecs volume settings start node := by
  intro node hnode
  rw [h.nodes_eq, List.mem_cons, List.mem_flatMap] at hnode
  rcases hnode with rfl | ⟨report, hreport, hin⟩
  · exact .root
  rw [Report.nodes, List.mem_append, Option.mem_toList] at hin
  obtain ⟨names, hfolder | hfile | hbroken⟩ :=
    exists_names_of_isReported habsolute hplain ((h.mem_iff report).1 hreport)
  · obtain ⟨label, parentId, hnode⟩ := hfolder.node_eq
    rcases hin with hself | hdefinition
    · obtain rfl := Option.some.inj (hnode.symm.trans hself)
      exact .folder hfolder.folder
    · rw [hfolder.definitions_eq] at hdefinition
      exact absurd hdefinition List.not_mem_nil
  · obtain ⟨label, parentId, hnode⟩ := hfile.node_eq
    rcases hin with hself | hdefinition
    · obtain rfl := Option.some.inj (hnode.symm.trans hself)
      exact .file hfile.file
    · exact .definition hfile.file hfile.outline hdefinition
  · rcases hin with hself | hdefinition
    · exact nomatch hbroken.node_eq.symm.trans hself
    · rw [hbroken.definitions_eq] at hdefinition
      exact absurd hdefinition List.not_mem_nil

theorem isDefinition_head? {report : Report} (hreport : report ∈ reports) :
    ∀ next ∈ report.nodes.head?, next.isDefinition = false := by
  intro next hnext
  rw [Report.nodes] at hnext
  obtain ⟨names, hfolder | hfile | hbroken⟩ :=
    exists_names_of_isReported habsolute hplain ((h.mem_iff report).1 hreport)
  · obtain ⟨label, parentId, hnode⟩ := hfolder.node_eq
    rw [hnode] at hnext
    rw [← Option.some.inj hnext]
    exact isDefinition_folderKind
  · obtain ⟨label, parentId, hnode⟩ := hfile.node_eq
    rw [hnode] at hnext
    rw [← Option.some.inj hnext]
    exact isDefinition_fileKind
  · rw [hbroken.node_eq, hbroken.definitions_eq] at hnext
    cases hnext

/-- The node of a file that can be scanned is followed by its outline. -/
theorem exists_outline (hfile : IsFilePath volume settings start names)
    (hscan : ∃ scan, scanFile codecs volume settings.scanOptions (start.below names)
      (fileId (start.below names).text) = .ok scan) :
    ∃ before file definitions after,
      result.snapshot.nodes = before ++ file :: (definitions ++ after) ∧
      file.standsAt fileKind (start.below names) = true ∧
      IsOutlineAt codecs volume settings (start.below names) definitions ∧
      ∀ next ∈ after.head?, next.isDefinition = false := by
  obtain ⟨report, hreported, hreport⟩ := exists_isFileReport habsolute hplain hfile hscan
  obtain ⟨label, parentId, hnode⟩ := hreport.node_eq
  obtain ⟨earlier, later, hreports⟩ := List.append_of_mem ((h.mem_iff report).2 hreported)
  refine ⟨rootNode start :: earlier.flatMap Report.nodes, _, report.definitions,
    later.flatMap Report.nodes, ?_, Node.standsAt_fileNode label parentId, hreport.outline, ?_⟩
  · rw [h.nodes_eq, hreports, List.flatMap_append, List.flatMap_cons, Report.nodes, hnode]
    simp
  · refine head?_flatMap fun other hother => h.isDefinition_head? habsolute hplain ?_
    rw [hreports]
    exact List.mem_append_right _ (List.mem_cons_of_mem _ hother)

omit hplain in
theorem skipped_nodup : (result.skipped.map (·.1)).Nodup := by
  -- the root and the paths of the reports are written differently
  have htexts : (start.text :: reports.map (·.path.text)).Nodup := by
    have hpath : ∀ report ∈ reports, ∃ names, names ≠ [] ∧ report.path = start.below names := by
      intro report hreport
      obtain ⟨name, names, hpath⟩ := ((h.mem_iff report).1 hreport).exists_names
      exact ⟨name :: names, List.cons_ne_nil _ _, by rw [hpath, Path.below_cons]⟩
    refine List.nodup_cons.2 ⟨fun hmem => ?_, ?_⟩
    · obtain ⟨report, hreport, htext⟩ := List.mem_map.1 hmem
      obtain ⟨names, hne, hreportPath⟩ := hpath report hreport
      have hself : (start.below names).text = (start.below []).text := by
        rw [← hreportPath, Path.below_nil, htext]
      exact hne (Path.below_inj_of_text_eq habsolute hself)
    · refine List.pairwise_map.2 ((List.pairwise_map.1 h.distinct).imp_of_mem ?_)
      intro a b ha hb hne htext
      obtain ⟨names, -, hnames⟩ := hpath a ha
      obtain ⟨others, -, hothers⟩ := hpath b hb
      rw [hnames, hothers] at htext
      exact hne (by rw [hnames, hothers, Path.below_inj_of_text_eq habsolute htext])
  rw [h.skipped_eq]
  refine htexts.sublist ?_
  have hlater := (List.filter_sublist (p := fun report : Report => report.reason?.isSome)
    (l := reports)).map (·.path.text)
  cases refusal? volume [] start with
  | none => exact hlater.cons _
  | some reason => exact hlater.cons_cons _

/-- Skipped is what the walk comes to but cannot go into, read or tell. -/
theorem skipped_iff (hscan : ∀ names, IsFilePath volume settings start names →
      ∃ scan, scanFile codecs volume settings.scanOptions (start.below names)
        (fileId (start.below names).text) = .ok scan) (text : String) :
    text ∈ result.skipped.map (·.1) ↔
      ∃ names, IsSkippedPath codecs volume settings start names ∧
        text = (start.below names).text := by
  have hroot : text ∈ (refusal? volume [] start).toList.map (fun _ => start.text) ↔
      text = start.text ∧ ∃ fault, volume.openFolder start = .error fault := by
    have hopens : (refusal? volume [] start).isSome = true ↔
        ∃ fault, volume.openFolder start = .error fault := by
      rw [isSome_refusal?_iff, leadsInto_nil]
      simp
    rw [← hopens]
    cases refusal? volume [] start <;> simp
  -- the root has no report of its own
  rw [h.skipped_eq, List.mem_append, hroot, List.mem_map]
  constructor
  · rintro (⟨rfl, hfault⟩ | ⟨report, hreport, rfl⟩)
    · exact ⟨[], .inl ⟨.inl rfl, .inr (by rwa [Path.below_nil])⟩, by rw [Path.below_nil]⟩
    obtain ⟨hmem, hreason⟩ := List.mem_filter.1 hreport
    obtain ⟨names, hfolder | hfile | hbroken⟩ :=
      exists_names_of_isReported habsolute hplain ((h.mem_iff report).1 hmem)
    · exact ⟨names, .inl ⟨.inr hfolder.folder, hfolder.skipped_iff.1 hreason⟩, by
        rw [hfolder.path_eq]⟩
    · exact ⟨names, .inr (.inl ⟨hfile.file, hfile.skipped_iff.1 hreason⟩), by rw [hfile.path_eq]⟩
    · exact ⟨names, .inr (.inr hbroken.broken), by rw [hbroken.path_eq]⟩
  · rintro ⟨names, ⟨hcomes, hrefused⟩ | ⟨hfile, hread⟩ | hbroken, rfl⟩
    · rcases hcomes with rfl | hfolder
      · -- nothing encloses the root
        rcases hrefused with ⟨outer, houter, hne, -⟩ | hfault
        · exact absurd (List.prefix_nil.1 houter) hne
        · rw [Path.below_nil] at hfault ⊢
          exact .inl ⟨rfl, hfault⟩
      · obtain ⟨report, hreported, hreport⟩ := exists_isFolderReport habsolute hplain hfolder
        exact .inr ⟨report, List.mem_filter.2 ⟨(h.mem_iff report).2 hreported,
          hreport.skipped_iff.2 hrefused⟩, by rw [hreport.path_eq]⟩
    · obtain ⟨report, hreported, hreport⟩ :=
        exists_isFileReport habsolute hplain hfile (hscan names hfile)
      exact .inr ⟨report, List.mem_filter.2 ⟨(h.mem_iff report).2 hreported,
        hreport.skipped_iff.2 hread⟩, by rw [hreport.path_eq]⟩
    · obtain ⟨report, hreported, hreport⟩ := exists_isBrokenReport habsolute hplain hbroken
      exact .inr ⟨report, List.mem_filter.2 ⟨(h.mem_iff report).2 hreported, hreport.skipped⟩, by
        rw [hreport.path_eq]⟩

/-- If every file that the walk reads can be scanned, the result is complete. -/
theorem isComplete (htree : result.snapshot.IsTree (rootNode start))
    (hscan : ∀ names, IsFilePath volume settings start names →
      ∃ scan, scanFile codecs volume settings.scanOptions (start.below names)
        (fileId (start.below names).text) = .ok scan) :
    result.IsComplete codecs volume settings start where
  folder_iff names hne := by
    constructor
    · rintro ⟨node, hnode, hstands⟩
      have hnodeOf := h.isNodeOf habsolute hplain node hnode
      exact (hnodeOf.of_standsAt_folder habsolute hstands).2.resolve_left hne
    · intro hfolder
      obtain ⟨report, hreported, hreport⟩ := exists_isFolderReport habsolute hplain hfolder
      obtain ⟨label, parentId, hnode⟩ := hreport.node_eq
      refine ⟨_, h.mem_nodes ((h.mem_iff report).2 hreported) hnode, ?_⟩
      exact Node.standsAt_folderNode label parentId
  file_iff names := by
    constructor
    · rintro ⟨node, hnode, hstands⟩
      have hnodeOf := h.isNodeOf habsolute hplain node hnode
      exact (hnodeOf.of_standsAt_file habsolute hstands).2
    · intro hfile
      obtain ⟨report, hreported, hreport⟩ :=
        exists_isFileReport habsolute hplain hfile (hscan names hfile)
      obtain ⟨label, parentId, hnode⟩ := hreport.node_eq
      refine ⟨_, h.mem_nodes ((h.mem_iff report).2 hreported) hnode, ?_⟩
      exact Node.standsAt_fileNode label parentId
  once := by
    -- the id of a folder or file tells its path, and no id comes twice
    rintro kind names (rfl | rfl)
    · exact countP_le_one htree.ids_nodup fun node hnode hstands =>
        ((h.isNodeOf habsolute hplain node hnode).of_standsAt_folder habsolute hstands).1
    · exact countP_le_one htree.ids_nodup fun node hnode hstands =>
        ((h.isNodeOf habsolute hplain node hnode).of_standsAt_file habsolute hstands).1
  outline names hfile := h.exists_outline habsolute hplain hfile (hscan names hfile)
  origin node hnode := by
    cases h.isNodeOf habsolute hplain node hnode with
    | root => exact .inl rfl
    | folder hfolder => exact .inr (.inl ⟨_, hfolder, Node.standsAt_folderNode _ _⟩)
    | file hfile => exact .inr (.inr ⟨_, hfile, .inl (Node.standsAt_fileNode _ _)⟩)
    | definition hfile houtline hin => exact .inr (.inr ⟨_, hfile, .inr ⟨_, houtline, hin⟩⟩)
  skipped_nodup := h.skipped_nodup habsolute
  skipped_iff := h.skipped_iff habsolute hplain hscan

end WalkResult.IsMadeOf

/-! ## Walks -/

/-- A walk reads exactly the files that it comes to. -/
theorem reads_start_iff (habsolute : start.isAbsolute = true) (hplain : start.hasNull = false)
    {file : Path} :
    Reads volume settings [] start file ↔
      ∃ names, IsFilePath volume settings start names ∧ file = start.below names := by
  rw [reads_iff]
  constructor
  · rintro ⟨outer, location, within, name, hdescends, -, hfile, rfl⟩
    have hopen := ((exists_descends_iff habsolute hplain).1 ⟨_, _, hdescends⟩).1
    exact ⟨outer ++ [name], ⟨outer, name, rfl, hopen,
      (isFileEntry_iff hdescends.mem_within_iff.1).1 hfile⟩, Path.child_below start outer name⟩
  · rintro ⟨names, hpath, rfl⟩
    obtain ⟨outer, name, location, within, rfl, hopen, hdescends, hin⟩ :=
      exists_descends_of_isEntryPath habsolute hplain hpath
    have hfile := (isFileEntry_iff hdescends.mem_within_iff.1).2 hin
    exact ⟨outer, location, within, name, hdescends,
      mem_namesIn_of_entryRole (by rw [hfile.role]; nofun), hfile,
      (Path.child_below start outer name).symm⟩

end

end SourceOutline
