import Mathlib.Data.List.Infix
import SourceOutline.Proofs.Repository.Difference

set_option autoImplicit false

/-! # What contains what

The snapshot of a walk says with each node what contains it, and what it says agrees with paths and
kinds: a folder contains the folders and files whose paths go on from its own by one name, a file
the definitions of its text, and a definition those of its block. From any node the way up goes
through definitions of one file, each on an earlier line than the one before, then through that
file, and then through the folders on its path to the root (`containment_of_walk`). -/

namespace SourceOutline

variable {codecs : Codecs}

/-! ## The ways in which nodes are contained -/

/-- A folder contains an entry: the label of the entry leads from one path to the other, and it is a
    name that a walk does not leave out. -/
structure Node.IsEntryOf (settings : Settings) (node parent : Node) : Prop where
  parentId_eq : node.parentId = some parent.id
  parent_kind : parent.kind = folderKind
  exists_name : ∃ name : Name, name.text = node.label ∧
    ((Path.ofText parent.sourcePath).child name).text = node.sourcePath
  included : settings.isExcluded node.label = false
  kind_eq : (node.kind = folderKind ∧ node.id = folderId node.sourcePath) ∨
    (node.kind = fileKind ∧ node.id = fileId node.sourcePath ∧
      settings.isSupported node.label = .ok true)

/-- A file contains a definition of its text, or a definition contains one that starts further
    down. -/
structure Node.IsDefinedIn (node parent : Node) : Prop where
  isDefinition : node.isDefinition = true
  parentId_eq : node.parentId = some parent.id
  sourcePath_eq : parent.sourcePath = node.sourcePath
  parent_kind : (parent.kind = fileKind ∧ parent.id = fileId node.sourcePath) ∨
    (parent.isDefinition = true ∧ parent.startLine < node.startLine)

/-- The node that contains a node. -/
def Snapshot.parent? (snapshot : Snapshot) (node : Node) : Option Node :=
  node.parentId.bind snapshot.get?

/-- Going up from a node, from each to the one that contains it, leads through some nodes to the
    root. -/
inductive Snapshot.LeadsUp (snapshot : Snapshot) (root : Node) : Node → List Node → Prop
  | root : LeadsUp snapshot root root [root]
  | step {node parent : Node} {line : List Node} (hparent : snapshot.parent? node = some parent)
      (hline : LeadsUp snapshot root parent line) : LeadsUp snapshot root node (node :: line)

/-- A node of a tree leads up through itself if its parent leads up. -/
theorem Snapshot.IsTree.leadsUp {snapshot : Snapshot} {root node parent : Node} {line : List Node}
    (h : snapshot.IsTree root) (hparent : parent ∈ snapshot.nodes)
    (hid : node.parentId = some parent.id) (hline : snapshot.LeadsUp root parent line) :
    snapshot.LeadsUp root node (node :: line) := by
  refine .step ?_ hline
  rw [Snapshot.parent?, hid, Option.bind_some, h.get?_id hparent]

/-! ## Nodes by their names -/

section

variable (start : Path)

/-- The node of the folder by some names below the start of a walk; by no names it is the root. -/
def folderNodeAt (names : List Name) : Node :=
  match names.getLast? with
  | none => rootNode start
  | some name => folderNode (start.below names) name.text
      (some (folderId (start.below names.dropLast).text))

/-- The node of the file with a name in the folder by some names. -/
def fileNodeAt (outer : List Name) (name : Name) : Node :=
  fileNode (start.below (outer ++ [name])) name.text (folderId (start.below outer).text)

/-- The nodes of the folder by some names and of those around it, up to the root. -/
def foldersUp (names : List Name) : List Node :=
  names.inits.reverse.map (folderNodeAt start)

/-- A way up: through definitions of one file, each on an earlier line than the one inside it,
    through that file, and through the folders of its path. -/
inductive IsWayUp : List Node → Prop
  | folders (names : List Name) : IsWayUp (foldersUp start names)
  | file {definitions : List Node} {outer : List Name} {name : Name}
      (hdefinitions : ∀ node ∈ definitions, node.isDefinition = true ∧
        node.sourcePath = (start.below (outer ++ [name])).text)
      (hlines : definitions.Pairwise fun inner enclosing => enclosing.startLine < inner.startLine) :
      IsWayUp (definitions ++ fileNodeAt start outer name :: foldersUp start outer)

theorem folderNodeAt_append (outer : List Name) (name : Name) :
    folderNodeAt start (outer ++ [name]) = folderNode (start.below (outer ++ [name])) name.text
      (some (folderId (start.below outer).text)) := by
  simp [folderNodeAt]

theorem folderNodeAt_spec (names : List Name) :
    (folderNodeAt start names).kind = folderKind ∧
      (folderNodeAt start names).id = folderId (start.below names).text ∧
      (folderNodeAt start names).sourcePath = (start.below names).text := by
  unfold folderNodeAt
  split
  case h_1 hnone =>
    rw [List.getLast?_eq_none_iff.1 hnone, Path.below_nil]
    exact ⟨rfl, rfl, rfl⟩
  case h_2 => exact ⟨rfl, rfl, rfl⟩

theorem foldersUp_append (outer : List Name) (name : Name) :
    foldersUp start (outer ++ [name])
      = folderNodeAt start (outer ++ [name]) :: foldersUp start outer := by
  simp [foldersUp, List.inits_append]

variable {start} {volume : Volume} {settings : Settings} {node : Node} {names : List Name}

theorem IsPlacedNode.eq_folderNodeAt (h : IsPlacedNode codecs volume settings start node)
    (habsolute : start.isAbsolute = true) (hid : node.id = folderId (start.below names).text) :
    node = folderNodeAt start names := by
  cases h with
  | root =>
    have hpaths : (start.below []).text = (start.below names).text := by
      rw [Path.below_nil]
      exact (kind_inj (by decide) (by decide) hid).2
    obtain rfl := Path.below_inj_of_text_eq habsolute hpaths
    rfl
  | folder outer name =>
    have hpaths := (kind_inj (by decide) (by decide) hid).2
    obtain rfl := Path.below_inj_of_text_eq habsolute hpaths
    exact (folderNodeAt_append start outer name).symm
  | file => exact absurd hid.symm (folderId_ne_fileId _ _)
  | definition _ houtline hnode =>
    obtain ⟨kind, line, name, -, heq⟩ := houtline.exists_definitionId hnode
    exact absurd (heq.symm.trans hid) (definitionId_ne_folderId _ _ _ _ _)

theorem IsPlacedNode.eq_fileNodeAt (h : IsPlacedNode codecs volume settings start node)
    (habsolute : start.isAbsolute = true) (hid : node.id = fileId (start.below names).text) :
    ∃ outer name, names = outer ++ [name] ∧ node = fileNodeAt start outer name := by
  cases h with
  | root => exact absurd hid (folderId_ne_fileId _ _)
  | folder => exact absurd hid (folderId_ne_fileId _ _)
  | @file outer name hfile =>
    have hpaths := (kind_inj (by decide) (by decide) hid).2
    exact ⟨outer, name, (Path.below_inj_of_text_eq habsolute hpaths).symm, rfl⟩
  | definition _ houtline hnode =>
    obtain ⟨kind, line, name, -, heq⟩ := houtline.exists_definitionId hnode
    exact absurd (heq.symm.trans hid) (definitionId_ne_fileId _ _ _ _ _)

end

/-! ## Entries and definitions of a walk -/

section

variable {volume : Volume} {settings : Settings} {root : Path} {result : WalkResult} {node : Node}
  {names : List Name}

theorem isEntryOf_fileNodeAt {outer : List Name} {name : Name}
    (hfile : IsFilePath volume settings (walkStart volume root) (outer ++ [name])) :
    (fileNodeAt (walkStart volume root) outer name).IsEntryOf settings
      (folderNodeAt (walkStart volume root) outer) := by
  obtain ⟨hkind, hid, hpath⟩ := folderNodeAt_spec (walkStart volume root) outer
  obtain ⟨others, other, hnames, -, hincluded, hsupported, -⟩ := hfile
  obtain ⟨-, rfl⟩ := List.append_singleton_inj.1 hnames
  refine ⟨by rw [hid]; rfl, hkind, ⟨name, rfl, ?_⟩, hincluded, .inr ⟨rfl, rfl, hsupported⟩⟩
  rw [hpath, ofText_text_below_walkStart, Path.child_below]
  rfl

variable (hwalk : walk codecs volume settings root = .ok result)

include hwalk

theorem folderNodeAt_mem (hnode : node ∈ result.snapshot.nodes)
    (hparent : node.parentId = some (folderId ((walkStart volume root).below names).text)) :
    folderNodeAt (walkStart volume root) names ∈ result.snapshot.nodes := by
  obtain ⟨htree, -⟩ := exists_isMadeOf hwalk
  obtain ⟨parent, hmem, hid⟩ := htree.exists_parent_of_mem hnode hparent
  rwa [(isPlacedNode_of_walk hwalk hmem).eq_folderNodeAt (isAbsolute_walkStart volume root) hid]
    at hmem

theorem exists_fileNodeAt_mem (hnode : node ∈ result.snapshot.nodes)
    (hparent : node.parentId = some (fileId ((walkStart volume root).below names).text)) :
    ∃ outer name, names = outer ++ [name] ∧
      fileNodeAt (walkStart volume root) outer name ∈ result.snapshot.nodes := by
  obtain ⟨htree, -⟩ := exists_isMadeOf hwalk
  obtain ⟨parent, hmem, hid⟩ := htree.exists_parent_of_mem hnode hparent
  obtain ⟨outer, name, hnames, rfl⟩ :=
    (isPlacedNode_of_walk hwalk hmem).eq_fileNodeAt (isAbsolute_walkStart volume root) hid
  exact ⟨outer, name, hnames, hmem⟩

theorem mem_of_isOutlineAt {nodes : List Node} {other : Node}
    (hfile : IsFilePath volume settings (walkStart volume root) names)
    (houtline : IsOutlineAt codecs volume settings ((walkStart volume root).below names) nodes)
    (hother : other ∈ nodes) : other ∈ result.snapshot.nodes := by
  obtain ⟨-, reports, hreports⟩ := exists_isMadeOf hwalk
  obtain ⟨before, file, definitions, after, hnodes, -, hdefinitions, -⟩ :=
    hreports.exists_outline (isAbsolute_walkStart volume root) (hasNull_walkStart_of_walk hwalk)
      hfile (exists_scanFile_of_walk hwalk hfile)
  obtain ⟨text, htext⟩ := houtline.exists_text hother
  obtain rfl := Except.ok.inj ((houtline.1 text htext).symm.trans (hdefinitions.1 text htext))
  rw [hnodes]
  exact List.mem_append_right _ (List.mem_cons_of_mem _ (List.mem_append_left _ hother))

theorem isEntryOf_folderNodeAt {outer : List Name} {name : Name}
    (hnode : folderNodeAt (walkStart volume root) (outer ++ [name]) ∈ result.snapshot.nodes) :
    (folderNodeAt (walkStart volume root) (outer ++ [name])).IsEntryOf settings
      (folderNodeAt (walkStart volume root) outer) := by
  obtain ⟨-, reports, hreports⟩ := exists_isMadeOf hwalk
  have habsolute := isAbsolute_walkStart volume root
  obtain ⟨hkind, hid, hpath⟩ := folderNodeAt_spec (walkStart volume root) outer
  rw [folderNodeAt_append] at hnode ⊢
  -- the walk comes to the folder, so no name on its path is left out
  have hnodeOf := hreports.isNodeOf habsolute (hasNull_walkStart_of_walk hwalk) _ hnode
  obtain ⟨-, hnil | hfolder⟩ :=
    hnodeOf.of_standsAt_folder habsolute (Node.standsAt_folderNode _ _)
  · simp at hnil
  obtain ⟨others, other, hnames, -, hincluded, -⟩ := hfolder
  obtain ⟨-, rfl⟩ := List.append_singleton_inj.1 hnames
  refine ⟨by rw [hid]; rfl, hkind, ⟨name, rfl, ?_⟩, hincluded, .inl ⟨rfl, rfl⟩⟩
  rw [hpath, ofText_text_below_walkStart, Path.child_below]
  rfl

/-- A definition is contained in its file or in a definition of the same text that starts further
    up. -/
theorem exists_parent_of_isOutlineAt {nodes : List Node}
    (hfile : IsFilePath volume settings (walkStart volume root) names)
    (houtline : IsOutlineAt codecs volume settings ((walkStart volume root).below names) nodes)
    (hnode : node ∈ nodes) :
    (∃ outer name, names = outer ++ [name] ∧
      fileNodeAt (walkStart volume root) outer name ∈ result.snapshot.nodes ∧
      node.parentId = some (fileNodeAt (walkStart volume root) outer name).id) ∨
    ∃ parent ∈ nodes, node.parentId = some parent.id ∧ parent.startLine < node.startLine := by
  obtain ⟨text, htext⟩ := houtline.exists_text hnode
  refine (ScanOptions.exists_parent_of_mem (houtline.1 text htext) node hnode).imp_left ?_
  intro hparent
  obtain ⟨outer, name, rfl, hmem⟩ :=
    exists_fileNodeAt_mem hwalk (mem_of_isOutlineAt hwalk hfile houtline hnode) hparent
  exact ⟨outer, name, rfl, hmem, hparent⟩

theorem exists_isDefinedIn {nodes : List Node}
    (hfile : IsFilePath volume settings (walkStart volume root) names)
    (houtline : IsOutlineAt codecs volume settings ((walkStart volume root).below names) nodes)
    (hnode : node ∈ nodes) : ∃ parent ∈ result.snapshot.nodes, node.IsDefinedIn parent := by
  have hkind := houtline.isDefinition
  have hpath : ∀ other ∈ nodes, other.sourcePath = ((walkStart volume root).below names).text := by
    intro other hother
    obtain ⟨text, snippetLines, -, hdefinition⟩ := houtline.exists_isDefinitionIn hother
    exact hdefinition.sourcePath_eq
  rcases exists_parent_of_isOutlineAt hwalk hfile houtline hnode with
    ⟨outer, name, rfl, hmem, hparent⟩ | ⟨parent, hmem, hparent, hline⟩
  · refine ⟨_, hmem, hkind node hnode, hparent, (hpath node hnode).symm, .inl ⟨rfl, ?_⟩⟩
    rw [hpath node hnode]
    rfl
  · refine ⟨parent, mem_of_isOutlineAt hwalk hfile houtline hmem, hkind node hnode, hparent, ?_,
      .inr ⟨hkind parent hmem, hline⟩⟩
    rw [hpath node hnode, hpath parent hmem]

/-! ## Ways up -/

/-- From a folder the way up leads through the folders around it. -/
theorem leadsUp_folderNodeAt (names : List Name) :
    folderNodeAt (walkStart volume root) names ∈ result.snapshot.nodes →
      result.snapshot.LeadsUp (rootNode (walkStart volume root))
        (folderNodeAt (walkStart volume root) names) (foldersUp (walkStart volume root) names) := by
  obtain ⟨htree, -⟩ := exists_isMadeOf hwalk
  induction names using List.reverseRecOn with
  | nil => exact fun _ => .root
  | append_singleton outer name ih =>
    intro hnode
    have hentry := isEntryOf_folderNodeAt hwalk hnode
    have hid := (folderNodeAt_spec (walkStart volume root) outer).2.1
    have hparent := folderNodeAt_mem hwalk hnode (hid ▸ hentry.parentId_eq)
    rw [foldersUp_append]
    exact htree.leadsUp hparent hentry.parentId_eq (ih hparent)

/-- From a file the way up leads through the folders of its path. -/
theorem leadsUp_fileNodeAt {outer : List Name} {name : Name}
    (hnode : fileNodeAt (walkStart volume root) outer name ∈ result.snapshot.nodes) :
    result.snapshot.LeadsUp (rootNode (walkStart volume root))
      (fileNodeAt (walkStart volume root) outer name)
      (fileNodeAt (walkStart volume root) outer name
        :: foldersUp (walkStart volume root) outer) := by
  obtain ⟨htree, -⟩ := exists_isMadeOf hwalk
  have hid := (folderNodeAt_spec (walkStart volume root) outer).2.1
  have hparent := folderNodeAt_mem hwalk hnode rfl
  refine htree.leadsUp hparent ?_ (leadsUp_folderNodeAt hwalk outer hparent)
  rw [hid]
  rfl

/-- From a definition the way up leads through definitions further up in its file to the file. -/
theorem exists_leadsUp_definition {nodes : List Node} {outer : List Name} {name : Name}
    (hfile : IsFilePath volume settings (walkStart volume root) (outer ++ [name]))
    (houtline : IsOutlineAt codecs volume settings
      ((walkStart volume root).below (outer ++ [name])) nodes)
    (line : Nat) :
    ∀ node ∈ nodes, node.startLine = line →
      ∃ definitions : List Node, (∀ other ∈ definitions, other ∈ nodes ∧ other.startLine ≤ line) ∧
        definitions.Pairwise (fun inner enclosing => enclosing.startLine < inner.startLine) ∧
        result.snapshot.LeadsUp (rootNode (walkStart volume root)) node
          (definitions ++ fileNodeAt (walkStart volume root) outer name ::
            foldersUp (walkStart volume root) outer) := by
  obtain ⟨htree, -⟩ := exists_isMadeOf hwalk
  -- every definition on the way starts further up, so the induction is on the line
  induction line using Nat.strong_induction_on with
  | _ line ih =>
    intro node hnode hstart
    rcases exists_parent_of_isOutlineAt hwalk hfile houtline hnode with
      ⟨others, other, hnames, hmem, hparent⟩ | ⟨parent, hmem, hparent, hbefore⟩
    · obtain ⟨rfl, rfl⟩ := List.append_singleton_inj.1 hnames
      refine ⟨[node], by simp [hnode, hstart], List.pairwise_singleton _ _, ?_⟩
      exact htree.leadsUp hmem hparent (leadsUp_fileNodeAt hwalk hmem)
    · obtain ⟨text, snippetLines, -, hdefinition⟩ := houtline.exists_isDefinitionIn hmem
      obtain ⟨first, last, hfirst, -⟩ := hdefinition.exists_range
      obtain ⟨definitions, hdefinitions, hpairwise, hline⟩ :=
        ih first (by omega) parent hmem hfirst
      refine ⟨node :: definitions, ?_, ?_, htree.leadsUp
        (mem_of_isOutlineAt hwalk hfile houtline hmem) hparent hline⟩
      · refine List.forall_mem_cons.2 ⟨⟨hnode, Int.le_of_eq hstart⟩, fun other hother => ?_⟩
        exact ⟨(hdefinitions other hother).1, by have := (hdefinitions other hother).2; omega⟩
      · refine List.pairwise_cons.2 ⟨fun other hother => ?_, hpairwise⟩
        have := (hdefinitions other hother).2
        omega

/-- From every definition there is a way up. -/
theorem exists_isWayUp_definition {nodes : List Node}
    (hfile : IsFilePath volume settings (walkStart volume root) names)
    (houtline : IsOutlineAt codecs volume settings ((walkStart volume root).below names) nodes)
    (hnode : node ∈ nodes) :
    ∃ line, result.snapshot.LeadsUp (rootNode (walkStart volume root)) node line ∧
      IsWayUp (walkStart volume root) line := by
  have ⟨outer, name, hnames, _⟩ := hfile
  subst hnames
  obtain ⟨text, snippetLines, -, hdefinition⟩ := houtline.exists_isDefinitionIn hnode
  obtain ⟨first, last, hfirst, -⟩ := hdefinition.exists_range
  obtain ⟨definitions, hdefinitions, hpairwise, hline⟩ :=
    exists_leadsUp_definition hwalk hfile houtline first _ hnode hfirst
  refine ⟨_, hline, .file (fun other hother => ?_) hpairwise⟩
  have hmem := (hdefinitions other hother).1
  obtain ⟨_, _, -, hotherDefinition⟩ := houtline.exists_isDefinitionIn hmem
  exact ⟨houtline.isDefinition other hmem, hotherDefinition.sourcePath_eq⟩

/-- Containment follows paths and kinds. Every node but the root is an entry of a folder or a
    definition in a file or in another definition, and the way up from every node leads through
    definitions of one file, that file and the folders of its path to the root. -/
theorem containment_of_walk {node : Node} (hnode : node ∈ result.snapshot.nodes) :
    (node = rootNode (walkStart volume root) ∨
      (∃ parent ∈ result.snapshot.nodes, node.IsEntryOf settings parent) ∨
      ∃ parent ∈ result.snapshot.nodes, node.IsDefinedIn parent) ∧
    ∃ line, result.snapshot.LeadsUp (rootNode (walkStart volume root)) node line ∧
      IsWayUp (walkStart volume root) line := by
  have hid := fun names => (folderNodeAt_spec (walkStart volume root) names).2.1
  cases isPlacedNode_of_walk hwalk hnode with
  | root => exact ⟨.inl rfl, _, leadsUp_folderNodeAt hwalk [] hnode, .folders []⟩
  | folder outer name =>
    rw [← folderNodeAt_append] at hnode ⊢
    have hentry := isEntryOf_folderNodeAt hwalk hnode
    exact ⟨.inr (.inl ⟨_, folderNodeAt_mem hwalk hnode (hid outer ▸ hentry.parentId_eq), hentry⟩),
      _, leadsUp_folderNodeAt hwalk _ hnode, .folders _⟩
  | file hfile =>
    exact ⟨.inr (.inl ⟨_, folderNodeAt_mem hwalk hnode rfl, isEntryOf_fileNodeAt hfile⟩),
      _, leadsUp_fileNodeAt hwalk hnode, @IsWayUp.file _ [] _ _ nofun .nil⟩
  | definition hfile houtline hin =>
    exact ⟨.inr (.inr (exists_isDefinedIn hwalk hfile houtline hin)),
      exists_isWayUp_definition hwalk hfile houtline hin⟩

end

/-- From a method the way up leads to the root. -/
theorem containment_of_method :
    ∃ result node,
      walk Encoding.codecs (sourceRepository "class A:\n    def f(): pass\n") {}
        (Path.ofText "/repo")
        = .ok result ∧
      node ∈ result.snapshot.nodes ∧ node.id = "function:/repo/a.py:1:f" ∧
      ∃ line, IsWayUp (Path.ofText "/repo") line ∧
        result.snapshot.LeadsUp (rootNode (Path.ofText "/repo")) node line := by
  have hgraph : sourceGraph "class A:\n    def f(): pass\n"
      = .ok (methodIds, methodEdges "class:/repo/a.py:0:A") := by decide +kernel
  obtain ⟨result, hwalk, hresult⟩ := map_eq_ok_iff.1 hgraph
  have hids : "function:/repo/a.py:1:f" ∈ result.snapshot.ids := by
    rw [← (Prod.mk.inj hresult).1]
    decide
  obtain ⟨node, hnode, hid⟩ := List.mem_map.1 hids
  obtain ⟨-, line, hline, hway⟩ := containment_of_walk hwalk hnode
  exact ⟨result, node, hwalk, hnode, hid, line, hway, hline⟩

end SourceOutline
