import Mathlib.Data.List.Nodup
import SourceOutline.Proofs.Graph.Difference
import SourceOutline.Proofs.Outline.Comparison
import SourceOutline.Proofs.Repository.Coverage
import SourceOutline.Proofs.Repository.Locality

set_option autoImplicit false

/-! # What snapshots with the same ids have in common

The difference of two snapshots tells which ids only one of them has. When two walks from one root
give snapshots that do not differ, they have found the same folders and files, with the same
parents, and the same definitions on the same lines. Only the nesting of these definitions is not
told by their ids: it is the same exactly if the lines are enclosed by the same lines in both texts
of each file (`sameEdges_iff_of_diff`). -/

namespace SourceOutline

variable {codecs : Codecs}

/-! ## Edges -/

namespace Snapshot

variable {snapshot other : Snapshot} {root : Node}

theorem IsTree.mem_edges_iff (h : snapshot.IsTree root) {edge : Edge} :
    edge ∈ snapshot.edges ↔ ∃ node ∈ snapshot.nodes, node.parentEdge? = some edge := by
  have hkey : ∀ {node : Node} {edge : Edge}, (some edge.source, edge.target, edge.relation)
      = (node.parentId, node.id, containsRelation) ↔ node.parentEdge? = some edge := by
    intro node edge
    obtain ⟨source, target, relation⟩ := edge
    cases hparent : node.parentId <;>
      simp [Node.parentEdge?, hparent, eq_comm]
  obtain ⟨rest, hnodes⟩ := List.head?_eq_some_iff.1 h.first
  have hedges := h.edges_eq
  rw [hnodes, List.tail_cons] at hedges
  constructor
  · intro hedge
    obtain ⟨node, hnode, heq⟩ := List.mem_map.1 (hedges ▸ List.mem_map_of_mem hedge)
    exact ⟨node, hnodes ▸ List.mem_cons_of_mem _ hnode, hkey.1 heq.symm⟩
  · rintro ⟨node, hnode, heq⟩
    rw [hnodes] at hnode
    rcases List.mem_cons.1 hnode with rfl | hrest
    · rw [Node.parentEdge?, h.root_parentId] at heq
      cases heq
    · obtain ⟨found, hfound, hsame⟩ := List.mem_map.1 (hedges ▸ List.mem_map_of_mem hrest)
      have hedge := (hkey.1 hsame).symm.trans heq
      exact Option.some.inj hedge ▸ hfound

theorem IsTree.eq_of_id_eq (h : snapshot.IsTree root) {node found : Node}
    (hnode : node ∈ snapshot.nodes) (hfound : found ∈ snapshot.nodes) (hid : node.id = found.id) :
    node = found :=
  List.inj_on_of_nodup_map h.ids_nodup hnode hfound hid

theorem IsTree.get?_id (h : snapshot.IsTree root) {node : Node} (hnode : node ∈ snapshot.nodes) :
    snapshot.get? node.id = some node := by
  cases hfound : snapshot.get? node.id with
  | none =>
    have hnone := List.find?_eq_none.1 hfound node (List.mem_reverse.2 hnode)
    exact absurd (beq_self_eq_true node.id) hnone
  | some found =>
    have hmem := List.mem_reverse.1 (List.mem_of_find?_eq_some hfound)
    have hid := List.find?_some hfound
    rw [h.eq_of_id_eq hmem hnode (beq_iff_eq.1 hid)]

theorem IsTree.exists_parent_of_mem (h : snapshot.IsTree root) {node : Node} {parent : String}
    (hnode : node ∈ snapshot.nodes) (hparent : node.parentId = some parent) :
    ∃ found ∈ snapshot.nodes, found.id = parent := by
  obtain ⟨before, after, hnodes⟩ := List.append_of_mem hnode
  cases before with
  | nil =>
    -- the first node is the root, which has no parent
    have hfirst := h.first
    rw [Snapshot.root?, hnodes] at hfirst
    obtain rfl := Option.some.inj hfirst
    cases h.root_parentId.symm.trans hparent
  | cons first before =>
    obtain ⟨found, hfound, hid⟩ := h.exists_parent _ _ _ hnodes (List.cons_ne_nil _ _)
    refine ⟨found, ?_, Option.some.inj (hid.symm.trans hparent)⟩
    rw [hnodes]
    exact List.mem_append_left _ hfound

theorem IsTree.parentId_eq_some_iff (h : snapshot.IsTree root) {node : Node} {parent : String}
    (hnode : node ∈ snapshot.nodes) :
    node.parentId = some parent ↔ { source := parent, target := node.id } ∈ snapshot.edges := by
  rw [h.mem_edges_iff]
  constructor
  · intro hparent
    exact ⟨node, hnode, by rw [Node.parentEdge?, hparent]; rfl⟩
  · rintro ⟨found, hfound, hedge⟩
    obtain ⟨source, hsource, hsame⟩ := Option.map_eq_some_iff.1 hedge
    obtain ⟨rfl, hid, -⟩ := Edge.mk.inj hsame
    rw [← h.eq_of_id_eq hfound hnode hid, hsource]

/-- A tree with the ids of another has its edges, if each id has the same parent. -/
theorem IsTree.mem_edges_of_parents {otherRoot : Node} (h : snapshot.IsTree root)
    (hother : other.IsTree otherRoot) (hids : ∀ id ∈ snapshot.ids, id ∈ other.ids)
    (hparents : ∀ node ∈ snapshot.nodes, ∀ found ∈ other.nodes, node.id = found.id →
      node.parentId = found.parentId) {edge : Edge} (hedge : edge ∈ snapshot.edges) :
    edge ∈ other.edges := by
  obtain ⟨node, hnode, hparentEdge⟩ := h.mem_edges_iff.1 hedge
  obtain ⟨parent, hparent, rfl⟩ := Option.map_eq_some_iff.1 hparentEdge
  obtain ⟨found, hfound, hid⟩ := List.mem_map.1 (hids node.id (List.mem_map_of_mem hnode))
  rw [hparents node hnode found hfound hid.symm] at hparent
  rw [← hid]
  exact (hother.parentId_eq_some_iff hfound).1 hparent

/-- Trees with the same ids have the same edges exactly if each id has the same parent in both. -/
theorem IsTree.sameEdges_iff {otherRoot : Node} (h : snapshot.IsTree root)
    (hother : other.IsTree otherRoot) (hids : ∀ id, id ∈ snapshot.ids ↔ id ∈ other.ids) :
    (∀ edge, edge ∈ snapshot.edges ↔ edge ∈ other.edges) ↔
      ∀ node ∈ snapshot.nodes, ∀ found ∈ other.nodes, node.id = found.id →
        node.parentId = found.parentId := by
  constructor
  · intro hedges node hnode found hfound hid
    refine Option.ext fun parent => ?_
    rw [h.parentId_eq_some_iff hnode, hother.parentId_eq_some_iff hfound, hid]
    exact hedges _
  · intro hparents edge
    refine ⟨h.mem_edges_of_parents hother (fun id => (hids id).1) hparents, ?_⟩
    refine hother.mem_edges_of_parents h (fun id => (hids id).2) ?_
    exact fun found hfound node hnode hid => (hparents node hnode found hfound hid.symm).symm

end Snapshot

/-! ## Files that are read have been scanned -/

section

variable {volume : Volume} {settings : Settings} {start : Path}

/-- A visit that succeeds has scanned every file that it reads. -/
theorem exists_scanFile_of_reads {entered : List Location} {path file : Path}
    (hreads : Reads volume settings entered path file) :
    ∀ {id : String} {found : List Finding},
      visitFolder codecs volume settings entered path id = .ok found →
      ∃ scan, scanFile codecs volume settings.scanOptions file (fileId file.text) = .ok scan := by
  induction hreads with
  | direct hopens hname hfile =>
    intro id found h
    rw [visitFolder_of_opens hopens] at h
    obtain ⟨entry, hentry⟩ :=
      exists_visitEntries_eq_ok_iff.1 ⟨found, h⟩ _ (Volume.mem_sortedNames.2 hname)
    rw [visitEntry_of_isFileEntry hfile] at hentry
    obtain ⟨scan, hscan, -⟩ := bind_eq_ok_iff.1 hentry
    exact ⟨scan, hscan⟩
  | deeper hopens hname hfolder _ ih =>
    intro id found h
    rw [visitFolder_of_opens hopens] at h
    obtain ⟨entry, hentry⟩ :=
      exists_visitEntries_eq_ok_iff.1 ⟨found, h⟩ _ (Volume.mem_sortedNames.2 hname)
    rw [visitEntry_of_isFolderEntry hfolder] at hentry
    obtain ⟨below, hbelow, -⟩ := map_eq_ok_iff.1 hentry
    exact ih hbelow

theorem hasNull_walkStart_of_walk {root : Path} {result : WalkResult}
    (hwalk : walk codecs volume settings root = .ok result) :
    (walkStart volume root).hasNull = false := by
  refine Bool.eq_false_iff.2 fun hnull => ?_
  rw [walk_of_hasNull hnull] at hwalk
  cases hwalk

/-- A walk that returns has scanned every file that it comes to. -/
theorem exists_scanFile_of_walk {root : Path} {result : WalkResult} {names : List Name}
    (hwalk : walk codecs volume settings root = .ok result)
    (hfile : IsFilePath volume settings (walkStart volume root) names) :
    ∃ scan, scanFile codecs volume settings.scanOptions ((walkStart volume root).below names)
      (fileId ((walkStart volume root).below names).text) = .ok scan := by
  obtain ⟨found, hfound⟩ := exists_walk_eq_ok_iff.1 ⟨result, hwalk⟩
  exact exists_scanFile_of_reads ((reads_start_iff (isAbsolute_walkStart volume root)
    (hasNull_walkStart_of_walk hwalk)).2 ⟨names, hfile, rfl⟩) hfound

/-! ## Nodes with their parents -/

/-- What a node of a walk is, with its parent: the root, an entry of a folder, or a definition in a
    file. -/
inductive IsPlacedNode (codecs : Codecs) (volume : Volume) (settings : Settings) (start : Path) :
    Node → Prop
  | root : IsPlacedNode codecs volume settings start (rootNode start)
  | folder (outer : List Name) (name : Name) :
      IsPlacedNode codecs volume settings start
        (folderNode (start.below (outer ++ [name])) name.text
        (some (folderId (start.below outer).text)))
  | file {outer : List Name} {name : Name}
      (hfile : IsFilePath volume settings start (outer ++ [name])) :
      IsPlacedNode codecs volume settings start (fileNode (start.below (outer ++ [name])) name.text
        (folderId (start.below outer).text))
  | definition {names : List Name} {nodes : List Node} {node : Node}
      (hfile : IsFilePath volume settings start names)
      (houtline : IsOutlineAt codecs volume settings (start.below names) nodes)
      (hnode : node ∈ nodes) :
      IsPlacedNode codecs volume settings start node

theorem WalkResult.IsMadeOf.isPlacedNode {result : WalkResult} {reports : List Report}
    (h : result.IsMadeOf codecs volume settings start reports) (habsolute : start.isAbsolute = true)
    (hplain : start.hasNull = false) {node : Node} (hnode : node ∈ result.snapshot.nodes) :
    IsPlacedNode codecs volume settings start node := by
  rw [h.nodes_eq, List.mem_cons, List.mem_flatMap] at hnode
  rcases hnode with rfl | ⟨report, hreport, hin⟩
  · exact .root
  obtain ⟨outer, location, within, name, hdescends, -, hentry⟩ := (h.mem_iff report).1 hreport
  have hopen := ((exists_descends_iff habsolute hplain).1 ⟨_, _, hdescends⟩).1
  have hchild := Path.child_below start outer name
  cases hentry with
  | folder hfolder =>
    rw [Report.nodes, Report.ofFolder, hchild] at hin
    rw [List.mem_singleton.1 hin]
    exact .folder outer name
  | file hfile hscan =>
    have hreport := hdescends.isFileReport hopen hfile hscan
    rw [Report.nodes, List.mem_append, Option.mem_toList] at hin
    rcases hin with hself | hdefinition
    · rw [Report.ofFile, hchild] at hself
      rw [← Option.some.inj hself]
      exact .file hreport.file
    · exact .definition hreport.file hreport.outline hdefinition
  | lost => exact absurd hin List.not_mem_nil

theorem IsOutlineAt.exists_text {path : Path} {nodes : List Node} {node : Node}
    (h : IsOutlineAt codecs volume settings path nodes) (hnode : node ∈ nodes) :
    ∃ text, readText codecs volume settings.encoding path = .ok text := by
  cases hread : readText codecs volume settings.encoding path with
  | ok text => exact ⟨text, rfl⟩
  | error fault => exact absurd (h.2 fault hread ▸ hnode) List.not_mem_nil

theorem IsOutlineAt.exists_isDefinitionIn {path : Path} {nodes : List Node} {node : Node}
    (h : IsOutlineAt codecs volume settings path nodes) (hnode : node ∈ nodes) :
    ∃ text snippetLines, readText codecs volume settings.encoding path = .ok text ∧
      node.IsDefinitionIn path.text (splitLines text) snippetLines := by
  obtain ⟨text, htext⟩ := h.exists_text hnode
  obtain ⟨snippetLines, rfl⟩ := ScanOptions.eq_outlineWith (h.1 text htext)
  have hdefinition := ScanOptions.isDefinitionIn_of_mem node hnode
  rw [String.toList_ofList] at hdefinition
  exact ⟨text, snippetLines, htext, hdefinition⟩

theorem IsOutlineAt.exists_definitionId {path : Path} {nodes : List Node} {node : Node}
    (h : IsOutlineAt codecs volume settings path nodes) (hnode : node ∈ nodes) :
    ∃ (kind : DefinitionKind) (line : Nat) (name : String), ':' ∉ name.toList ∧
      node.id = definitionId kind.label path.text line name := by
  obtain ⟨text, snippetLines, -, hdefinition⟩ := h.exists_isDefinitionIn hnode
  exact hdefinition.exists_id

/-- The id of the folder that encloses what stands by some names below a path; nothing encloses the
    path itself. -/
def enclosingFolderId? (start : Path) (names : List Name) : Option String :=
  if names = [] then none else some (folderId (start.below names.dropLast).text)

theorem enclosingFolderId?_append (start : Path) (outer : List Name) (name : Name) :
    enclosingFolderId? start (outer ++ [name]) = some (folderId (start.below outer).text) := by
  rw [enclosingFolderId?, if_neg (by simp), List.dropLast_concat]

/-- A node that is no definition has the id of a folder or file, and the folder around as parent. -/
theorem IsPlacedNode.exists_names {node : Node} (h : IsPlacedNode codecs volume settings start node)
    (hkind : node.isDefinition = false) :
    ∃ names, (node.id = folderId (start.below names).text ∨
      node.id = fileId (start.below names).text) ∧
      node.parentId = enclosingFolderId? start names := by
  cases h with
  | root => exact ⟨[], .inl (by rw [Path.below_nil]; rfl), rfl⟩
  | folder outer name => exact ⟨outer ++ [name], .inl rfl, (enclosingFolderId?_append _ _ _).symm⟩
  | file => exact ⟨_, .inr rfl, (enclosingFolderId?_append _ _ _).symm⟩
  | definition _ houtline hnode =>
    rw [houtline.isDefinition node hnode] at hkind
    cases hkind

/-- The ids of folders and files tell which nodes are definitions. -/
theorem IsPlacedNode.isDefinition_eq_false {node : Node} {text : String}
    (h : IsPlacedNode codecs volume settings start node)
    (hid : node.id = folderId text ∨ node.id = fileId text) : node.isDefinition = false := by
  cases h with
  | root => exact isDefinition_folderKind
  | folder => exact isDefinition_folderKind
  | file => exact isDefinition_fileKind
  | definition _ houtline hnode =>
    obtain ⟨kind, line, name, -, heq⟩ := houtline.exists_definitionId hnode
    rw [heq] at hid
    rcases hid with hfolder | hfile
    · exact absurd hfolder (definitionId_ne_folderId _ _ _ _ _)
    · exact absurd hfile (definitionId_ne_fileId _ _ _ _ _)

/-- A folder or file has the same parent in all walks from a path. -/
theorem IsPlacedNode.parentId_eq {other : Volume} {node found : Node}
    (h : IsPlacedNode codecs volume settings start node)
    (hother : IsPlacedNode codecs other settings start found)
    (habsolute : start.isAbsolute = true) (hid : node.id = found.id)
    (hkind : node.isDefinition = false) : node.parentId = found.parentId := by
  obtain ⟨names, hnode, hparent⟩ := h.exists_names hkind
  rw [hid] at hnode
  obtain ⟨others, hfound, hfoundParent⟩ :=
    hother.exists_names (hother.isDefinition_eq_false hnode)
  have hnames : names = others := by
    rcases hnode with hnode | hnode <;> rcases hfound with hfound | hfound <;>
      rw [hnode] at hfound
    · exact Path.below_inj_of_text_eq habsolute (kind_inj (by decide) (by decide) hfound).2
    · exact absurd hfound (folderId_ne_fileId _ _)
    · exact absurd hfound.symm (folderId_ne_fileId _ _)
    · exact Path.below_inj_of_text_eq habsolute (kind_inj (by decide) (by decide) hfound).2
  rw [hparent, hfoundParent, hnames]

theorem IsPlacedNode.isFilePath {node : Node} {names : List Name}
    (h : IsPlacedNode codecs volume settings start node) (habsolute : start.isAbsolute = true)
    (hid : node.id = fileId (start.below names).text) : IsFilePath volume settings start names := by
  cases h with
  | root => exact absurd hid (folderId_ne_fileId _ _)
  | folder => exact absurd hid (folderId_ne_fileId _ _)
  | file hfile =>
    have hpaths := (kind_inj (by decide) (by decide) hid).2
    rwa [← Path.below_inj_of_text_eq habsolute hpaths]
  | definition _ houtline hnode =>
    obtain ⟨kind, line, name, -, heq⟩ := houtline.exists_definitionId hnode
    exact absurd (heq.symm.trans hid) (definitionId_ne_fileId _ _ _ _ _)

/-- A node with the id of a definition in a file is in the outline of the file. -/
theorem IsPlacedNode.exists_outline {node : Node} {names : List Name} {kind : DefinitionKind}
    {line : Nat} {name : String} (h : IsPlacedNode codecs volume settings start node)
    (habsolute : start.isAbsolute = true) (hname : ':' ∉ name.toList)
    (hid : node.id = definitionId kind.label (start.below names).text line name) :
    ∃ nodes, IsOutlineAt codecs volume settings (start.below names) nodes ∧ node ∈ nodes := by
  cases h with
  | root => exact absurd hid.symm (definitionId_ne_folderId _ _ _ _ _)
  | folder => exact absurd hid.symm (definitionId_ne_folderId _ _ _ _ _)
  | file => exact absurd hid.symm (definitionId_ne_fileId _ _ _ _ _)
  | definition _ houtline hnode =>
    obtain ⟨kind', line', name', hname', heq⟩ := houtline.exists_definitionId hnode
    have hpaths := (definitionId_inj hname' hname (heq.symm.trans hid)).2.1
    obtain rfl := Path.below_inj_of_text_eq habsolute hpaths
    exact ⟨_, houtline, hnode⟩

/-! ## Definitions in a file -/

/-- The whole number that a quantity is, a truth value counting as zero or one. -/
def Quantity.whole? : Quantity → Option Int
  | .flag b => some (if b then 1 else 0)
  | .whole n => some n
  | .real _ => none

/-- How the file at a path is scanned with tabs that are a whole number of columns wide. -/
def fileContext (path : Path) (tabWidth snippetLines : Int) : ScanContext Int where
  ruler := .ofTabWidth tabWidth
  snippetLines := snippetLines
  sourcePath := path.text
  fileId := fileId path.text

/-- The outline of a file that can be read has the nodes of its lines. -/
theorem IsOutlineAt.exists_mem_iff {path : Path} {nodes : List Node} {tabWidth : Int}
    {text : List Char} (h : IsOutlineAt codecs volume settings path nodes)
    (htab : settings.tabWidth.whole? = some tabWidth)
    (htext : readText codecs volume settings.encoding path = .ok text) :
    ∃ snippetLines, ∀ node, node ∈ nodes ↔
      ∃ i, nodeAt? (fileContext path tabWidth snippetLines) (splitLines text) i = some node := by
  obtain ⟨snippetLines, rfl⟩ := ScanOptions.eq_outlineWith (h.1 text htext)
  refine ⟨snippetLines, fun node => ?_⟩
  have hwidth : settings.scanOptions.outlineWith snippetLines path.text (fileId path.text)
      (String.ofList text)
      = outline (fileContext path tabWidth snippetLines) (String.ofList text) := by
    have hoptions : settings.scanOptions.tabWidth = settings.tabWidth := rfl
    unfold ScanOptions.outlineWith
    rw [hoptions]
    cases hquantity : settings.tabWidth <;> rw [hquantity] at htab <;> cases htab <;> rfl
  rw [hwidth, mem_outline_iff, String.toList_ofList]

/-- A snapshot has the definitions of the file at a path, and no others that stand there. -/
structure HasDefinitions (snapshot : Snapshot) (path : Path) (context : ScanContext Int)
    (lines : List Line) : Prop where
  mem : ∀ i node, nodeAt? context lines i = some node → node ∈ snapshot.nodes
  only : ∀ node ∈ snapshot.nodes, ∀ (kind : DefinitionKind) (line : Nat) (name : String),
    ':' ∉ name.toList → node.id = definitionId kind.label path.text line name →
    ∃ i, nodeAt? context lines i = some node

/-- The snapshot of a walk has the definitions of every file that it reads. -/
theorem exists_hasDefinitions {root : Path} {result : WalkResult} {names : List Name}
    {tabWidth : Int} {text : List Char} (hwalk : walk codecs volume settings root = .ok result)
    (hfile : IsFilePath volume settings (walkStart volume root) names)
    (htab : settings.tabWidth.whole? = some tabWidth)
    (htext : readText codecs volume settings.encoding ((walkStart volume root).below names)
      = .ok text) :
    ∃ snippetLines, HasDefinitions result.snapshot ((walkStart volume root).below names)
      (fileContext ((walkStart volume root).below names) tabWidth snippetLines)
      (splitLines text) := by
  have habsolute := isAbsolute_walkStart volume root
  have hplain := hasNull_walkStart_of_walk hwalk
  obtain ⟨-, reports, hreports⟩ := exists_isMadeOf hwalk
  obtain ⟨before, file, definitions, after, hnodes, -, houtline, -⟩ :=
    hreports.exists_outline habsolute hplain hfile (exists_scanFile_of_walk hwalk hfile)
  obtain ⟨snippetLines, hmem⟩ := houtline.exists_mem_iff htab htext
  refine ⟨snippetLines, fun i node hnode => ?_, fun node hnode kind line name hname hid => ?_⟩
  · rw [hnodes]
    have hdefinition := (hmem node).2 ⟨i, hnode⟩
    exact List.mem_append_right _ (List.mem_cons_of_mem _ (List.mem_append_left _ hdefinition))
  · -- the node is in an outline of the same text
    obtain ⟨nodes, hother, hin⟩ :=
      (hreports.isPlacedNode habsolute hplain hnode).exists_outline habsolute hname hid
    refine (hmem node).1 ?_
    rwa [Except.ok.inj ((houtline.1 text htext).symm.trans (hother.1 text htext))]

section

variable {snapshot others : Snapshot} {path : Path} {tabWidth snippetLines otherSnippets : Int}
  {lines after : List Line} {i : Nat}

/-- What opens a definition in one of two texts of a file opens the same one in the other, if the
    snapshot of the other has the same ids. -/
theorem HasDefinitions.idAt?_of_idAt? {id : String}
    (h : HasDefinitions snapshot path (fileContext path tabWidth snippetLines) lines)
    (hother : HasDefinitions others path (fileContext path tabWidth otherSnippets) after)
    (hids : ∀ id ∈ snapshot.ids, id ∈ others.ids)
    (hid : idAt? (fileContext path tabWidth snippetLines) lines i = some id) :
    idAt? (fileContext path tabWidth otherSnippets) after i = some id := by
  obtain ⟨node, hnode, rfl⟩ := exists_nodeAt?_of_idAt? hid
  obtain ⟨found, hfound, hsame⟩ :=
    List.mem_map.1 (hids _ (List.mem_map_of_mem (h.mem i node hnode)))
  obtain ⟨definition, hopens, hdefinition⟩ := Option.map_eq_some_iff.1 hid
  obtain ⟨line, -, hline⟩ := Option.bind_eq_some_iff.1 hopens
  obtain ⟨j, hj⟩ := hother.only found hfound definition.kind i definition.name
    (Definition.colon_notMem_name hline) (hsame.trans hdefinition.symm)
  have hfoundId := idAt?_of_nodeAt? hj
  rw [hsame] at hfoundId
  rw [line_eq_of_idAt? hid hfoundId]
  exact hfoundId

/-- The definitions on a line of two texts of a file have the same parent exactly if the line is
    enclosed by the same lines, if the snapshots have the same ids. -/
theorem HasDefinitions.parentId_eq_iff {node found : Node}
    (h : HasDefinitions snapshot path (fileContext path tabWidth snippetLines) lines)
    (hother : HasDefinitions others path (fileContext path tabWidth otherSnippets) after)
    (hids : ∀ id, id ∈ snapshot.ids ↔ id ∈ others.ids)
    (hnode : nodeAt? (fileContext path tabWidth snippetLines) lines i = some node)
    (hfound : nodeAt? (fileContext path tabWidth otherSnippets) after i = some found) :
    node.parentId = found.parentId ↔
      ∀ j, IsEnclosing (.ofTabWidth tabWidth) lines j i ↔
        IsEnclosing (.ofTabWidth tabWidth) after j i := by
  have hfiles : (fileContext path tabWidth snippetLines).fileId
      = (fileContext path tabWidth otherSnippets).fileId := rfl
  have hlines : ∀ j, idAt? (fileContext path tabWidth snippetLines) lines j
      = idAt? (fileContext path tabWidth otherSnippets) after j := fun j => Option.ext fun id =>
    ⟨h.idAt?_of_idAt? hother fun id => (hids id).1, hother.idAt?_of_idAt? h fun id => (hids id).2⟩
  exact parentId_eq_iff_isEnclosing_iff rfl hfiles hlines hnode hfound

end

end

/-! ## Two walks -/

section

variable {before after : Volume} {settings : Settings} {root : Path} {a b : WalkResult}

/-- A walk from a root starts in the same way in every volume. -/
theorem start_walkStart_eq (before after : Volume) (root : Path) :
    (walkStart before root).start = (walkStart after root).start := by
  simp only [walkStart, Path.absolute]
  split <;> rfl

theorem isPlacedNode_of_walk (ha : walk codecs before settings root = .ok a) {node : Node}
    (hnode : node ∈ a.snapshot.nodes) :
    IsPlacedNode codecs before settings (walkStart before root) node := by
  obtain ⟨-, reports, hreports⟩ := exists_isMadeOf ha
  exact hreports.isPlacedNode (isAbsolute_walkStart before root) (hasNull_walkStart_of_walk ha)
    hnode

/-- The start of a walk is at or below the start of another that finds all of its ids. -/
theorem exists_walkStart_eq_below (ha : walk codecs before settings root = .ok a)
    (hb : walk codecs after settings root = .ok b)
    (hids : ∀ id ∈ b.snapshot.ids, id ∈ a.snapshot.ids) :
    ∃ names, walkStart after root = (walkStart before root).below names := by
  obtain ⟨-, others, hothers⟩ := exists_isMadeOf hb
  have hroot : folderId (walkStart after root).text ∈ b.snapshot.ids := by
    rw [Snapshot.ids, hothers.nodes_eq]
    exact List.mem_map_of_mem List.mem_cons_self
  obtain ⟨node, hnode, hid⟩ := List.mem_map.1 (hids _ hroot)
  have hplaced := isPlacedNode_of_walk ha hnode
  obtain ⟨names, hfolder | hfile, -⟩ :=
    hplaced.exists_names (hplaced.isDefinition_eq_false (.inl hid))
  · have htext := (kind_inj (by decide) (by decide) (hid.symm.trans hfolder)).2
    exact ⟨names, Path.eq_of_text_eq (start_walkStart_eq after before root)
      (isAbsolute_walkStart after root) htext⟩
  · exact absurd (hid.symm.trans hfile) (folderId_ne_fileId _ _)

/-- Walks that find the same ids start from the same path. -/
theorem walkStart_eq_of_ids (ha : walk codecs before settings root = .ok a)
    (hb : walk codecs after settings root = .ok b)
    (hids : ∀ id, id ∈ a.snapshot.ids ↔ id ∈ b.snapshot.ids) :
    walkStart after root = walkStart before root := by
  obtain ⟨names, hnames⟩ := exists_walkStart_eq_below ha hb fun id => (hids id).2
  obtain ⟨others, hothers⟩ := exists_walkStart_eq_below hb ha fun id => (hids id).1
  -- each start is below the other, so there is nothing between them
  have hback : (walkStart after root).below (others ++ names)
      = (walkStart after root).below [] := by
    rw [Path.below_append, ← hothers, ← hnames, Path.below_nil]
  have hnone := List.append_eq_nil_iff.1 (Path.below_inj.1 hback)
  rw [hothers, hnone.1, Path.below_nil]

theorem fileId_mem_ids {names : List Name} (ha : walk codecs before settings root = .ok a)
    (hfile : IsFilePath before settings (walkStart before root) names) :
    fileId ((walkStart before root).below names).text ∈ a.snapshot.ids := by
  obtain ⟨-, reports, hreports⟩ := exists_isMadeOf ha
  obtain ⟨report, hreported, hreport⟩ := exists_isFileReport (isAbsolute_walkStart before root)
    (hasNull_walkStart_of_walk ha) hfile (exists_scanFile_of_walk ha hfile)
  obtain ⟨label, parentId, hnode⟩ := hreport.node_eq
  exact List.mem_map.2 ⟨_, hreports.mem_nodes ((hreports.mem_iff report).2 hreported) hnode, rfl⟩

/-- In each file that two walks from a path read, every definition is enclosed by the same lines. -/
def NestsAlike (codecs : Codecs) (before after : Volume) (settings : Settings) (start : Path)
    (tabWidth : Int) : Prop :=
  ∀ names text newText, IsFilePath before settings start names →
    readText codecs before settings.encoding (start.below names) = .ok text →
    readText codecs after settings.encoding (start.below names) = .ok newText →
    ∀ i, (definitionAt? (splitLines text) i).isSome →
      ∀ j, IsEnclosing (.ofTabWidth tabWidth) (splitLines text) j i ↔
        IsEnclosing (.ofTabWidth tabWidth) (splitLines newText) j i

section

variable (ha : walk codecs before settings root = .ok a)
  (hb : walk codecs after settings root = .ok b)
  (hids : ∀ id, id ∈ a.snapshot.ids ↔ id ∈ b.snapshot.ids)

include ha hb hids

theorem isPlacedNode_of_ids {node : Node} (hnode : node ∈ b.snapshot.nodes) :
    IsPlacedNode codecs after settings (walkStart before root) node :=
  walkStart_eq_of_ids ha hb hids ▸ isPlacedNode_of_walk hb hnode

theorem parentId_eq_of_ids {node other : Node} (hnode : node ∈ a.snapshot.nodes)
    (hother : other ∈ b.snapshot.nodes) (hid : node.id = other.id)
    (hkind : node.isDefinition = false) : node.parentId = other.parentId :=
  (isPlacedNode_of_walk ha hnode).parentId_eq (isPlacedNode_of_ids ha hb hids hother)
    (isAbsolute_walkStart before root) hid hkind

theorem isFilePath_of_ids {names : List Name}
    (hfile : IsFilePath before settings (walkStart before root) names) :
    IsFilePath after settings (walkStart before root) names := by
  obtain ⟨node, hnode, hid⟩ := List.mem_map.1 ((hids _).1 (fileId_mem_ids ha hfile))
  exact (isPlacedNode_of_ids ha hb hids hnode).isFilePath (isAbsolute_walkStart before root) hid

/-- The snapshots have the definitions of the two texts of a file that both walks read. -/
theorem exists_hasDefinitions_of_ids {names : List Name} {tabWidth : Int} {text newText : List Char}
    (htab : settings.tabWidth.whole? = some tabWidth)
    (hfile : IsFilePath before settings (walkStart before root) names)
    (htext : readText codecs before settings.encoding ((walkStart before root).below names)
      = .ok text)
    (hnew : readText codecs after settings.encoding ((walkStart before root).below names)
      = .ok newText) :
    ∃ snippetLines otherSnippets,
      HasDefinitions a.snapshot ((walkStart before root).below names)
        (fileContext ((walkStart before root).below names) tabWidth snippetLines)
        (splitLines text) ∧
      HasDefinitions b.snapshot ((walkStart before root).below names)
        (fileContext ((walkStart before root).below names) tabWidth otherSnippets)
        (splitLines newText) := by
  have hother := isFilePath_of_ids ha hb hids hfile
  obtain ⟨snippetLines, hhas⟩ := exists_hasDefinitions ha hfile htab htext
  rw [← walkStart_eq_of_ids ha hb hids] at hother hnew
  obtain ⟨otherSnippets, hotherHas⟩ := exists_hasDefinitions hb hother htab hnew
  rw [walkStart_eq_of_ids ha hb hids] at hotherHas
  exact ⟨snippetLines, otherSnippets, hhas, hotherHas⟩

variable {tabWidth : Int} (htab : settings.tabWidth.whole? = some tabWidth)

include htab

/-- If all ids have the same parents, definitions are nested in the same way. -/
theorem nestsAlike_of_parentId_eq
    (hparents : ∀ node ∈ a.snapshot.nodes, ∀ other ∈ b.snapshot.nodes, node.id = other.id →
      node.parentId = other.parentId) :
    NestsAlike codecs before after settings (walkStart before root) tabWidth := by
  intro names text newText hfile htext hnew i hopens
  obtain ⟨snippetLines, otherSnippets, hhas, hotherHas⟩ :=
    exists_hasDefinitions_of_ids ha hb hids htab hfile htext hnew
  obtain ⟨definition, hdefinition⟩ := Option.isSome_iff_exists.1 hopens
  obtain ⟨node, hnode⟩ : ∃ node, nodeAt?
      (fileContext ((walkStart before root).below names) tabWidth snippetLines)
      (splitLines text) i = some node := ⟨_, nodeAt?_eq_some_iff.2 ⟨definition, hdefinition, rfl⟩⟩
  obtain ⟨other, hother, hid⟩ := exists_nodeAt?_of_idAt?
    (hhas.idAt?_of_idAt? hotherHas (fun id => (hids id).1) (idAt?_of_nodeAt? hnode))
  exact (hhas.parentId_eq_iff hotherHas hids hnode hother).1
    (hparents node (hhas.mem i node hnode) other (hotherHas.mem i other hother) hid.symm)

/-- If definitions are nested in the same way, all ids have the same parents. -/
theorem parentId_eq_of_nestsAlike
    (hnests : NestsAlike codecs before after settings (walkStart before root) tabWidth)
    {node other : Node}
    (hnode : node ∈ a.snapshot.nodes) (hother : other ∈ b.snapshot.nodes)
    (hid : node.id = other.id) : node.parentId = other.parentId := by
  have hkept := parentId_eq_of_ids ha hb hids hnode hother hid
  cases isPlacedNode_of_walk ha hnode with
  | root => exact hkept isDefinition_folderKind
  | folder => exact hkept isDefinition_folderKind
  | file => exact hkept isDefinition_fileKind
  | definition hfile houtline hin =>
    -- the other node is the definition on the same line of the other text
    obtain ⟨kind, line, name, hname, hnodeId⟩ := houtline.exists_definitionId hin
    obtain ⟨nodes, hotherOutline, hotherIn⟩ :=
      (isPlacedNode_of_ids ha hb hids hother).exists_outline (isAbsolute_walkStart before root)
        hname (hid.symm.trans hnodeId)
    obtain ⟨text, htext⟩ := houtline.exists_text hin
    obtain ⟨newText, hnew⟩ := hotherOutline.exists_text hotherIn
    obtain ⟨snippetLines, otherSnippets, hhas, hotherHas⟩ :=
      exists_hasDefinitions_of_ids ha hb hids htab hfile htext hnew
    obtain ⟨i, hi⟩ := hhas.only node hnode kind line name hname hnodeId
    obtain ⟨j, hj⟩ := hotherHas.only other hother kind line name hname (hid.symm.trans hnodeId)
    have hotherId := idAt?_of_nodeAt? hj
    rw [← hid] at hotherId
    obtain rfl := line_eq_of_idAt? (idAt?_of_nodeAt? hi) hotherId
    obtain ⟨definition, hdefinition, -⟩ := nodeAt?_eq_some_iff.1 hi
    exact (hhas.parentId_eq_iff hotherHas hids hi hj).2
      (hnests _ text newText hfile htext hnew i (Option.isSome_iff_exists.2
        ⟨definition, hdefinition⟩))

end

/-- When the snapshots of two walks from a root do not differ, they have the same ids, and folders
    and files have the same parents. All edges are the same exactly if the definitions in each file
    are nested in the same way. -/
theorem sameEdges_iff_of_diff (ha : walk codecs before settings root = .ok a)
    (hb : walk codecs after settings root = .ok b)
    (hdiff : (a.snapshot.diff b.snapshot).changed = false) :
    (∀ id, id ∈ a.snapshot.ids ↔ id ∈ b.snapshot.ids) ∧
    (∀ node ∈ a.snapshot.nodes, ∀ other ∈ b.snapshot.nodes, node.id = other.id →
      node.isDefinition = false → node.parentId = other.parentId) ∧
    ∀ tabWidth, settings.tabWidth.whole? = some tabWidth →
      ((∀ edge, edge ∈ a.snapshot.edges ↔ edge ∈ b.snapshot.edges) ↔
        NestsAlike codecs before after settings (walkStart before root) tabWidth) := by
  have hids := Snapshot.changed_diff_eq_false_iff.1 hdiff
  obtain ⟨htree, -⟩ := exists_isMadeOf ha
  obtain ⟨hotherTree, -⟩ := exists_isMadeOf hb
  refine ⟨hids, fun node hnode other hother => parentId_eq_of_ids ha hb hids hnode hother,
    fun tabWidth htab => ?_⟩
  rw [htree.sameEdges_iff hotherTree hids]
  constructor
  · exact nestsAlike_of_parentId_eq ha hb hids htab
  · intro hnests node hnode other hother hid
    exact parentId_eq_of_nestsAlike ha hb hids htab hnests hnode hother hid

end

/-! ## A method that is moved out of its class -/

/-- A repository with one file that has a text. -/
def sourceRepository (text : String) : Volume where
  entries := [([repositoryName], .folder true),
    ([sourceName, repositoryName], .file (encodeUtf8 text.toList) true)]
  distinct := by simp
  plain := by simpa using ⟨(by decide : repositoryName.hasNull = false), by decide⟩

/-- What the walk of such a repository finds, up to its ids and edges. -/
def sourceGraph (text : String) : Except WalkFault (List String × List Edge) :=
  (walk Encoding.codecs (sourceRepository text) {} (Path.ofText "/repo")).map
    fun result => (result.snapshot.ids, result.snapshot.edges)

/-- The ids of a class on the first line and of a function on the second, below their file. -/
def methodIds : List String :=
  ["folder:/repo", "file:/repo/a.py", "class:/repo/a.py:0:A", "function:/repo/a.py:1:f"]

/-- The edges of these nodes, when something encloses the function. -/
def methodEdges (parentId : String) : List Edge :=
  [{ source := "folder:/repo", target := "file:/repo/a.py" },
    { source := "file:/repo/a.py", target := "class:/repo/a.py:0:A" },
    { source := parentId, target := "function:/repo/a.py:1:f" }]

/-- Two walks of such repositories that find the same ids do not differ. -/
theorem exists_walk_of_sourceGraph {text newText : String} {ids : List String}
    {edges newEdges : List Edge} (h : sourceGraph text = .ok (ids, edges))
    (hnew : sourceGraph newText = .ok (ids, newEdges)) :
    ∃ a b, walk Encoding.codecs (sourceRepository text) {} (Path.ofText "/repo") = .ok a ∧
      walk Encoding.codecs (sourceRepository newText) {} (Path.ofText "/repo") = .ok b ∧
      (a.snapshot.diff b.snapshot).changed = false ∧
      a.snapshot.edges = edges ∧ b.snapshot.edges = newEdges := by
  obtain ⟨a, ha, hgraph⟩ := map_eq_ok_iff.1 h
  obtain ⟨b, hb, hnewGraph⟩ := map_eq_ok_iff.1 hnew
  obtain ⟨hids, hedges⟩ := Prod.mk.inj hgraph
  obtain ⟨hnewIds, hnewEdges⟩ := Prod.mk.inj hnewGraph
  refine ⟨a, b, ha, hb, Snapshot.changed_diff_eq_false_iff.2 fun id => ?_, hedges.symm,
    hnewEdges.symm⟩
  rw [← hids, hnewIds]

/-- The definitions of a class are nested in the same way when its method is indented by fewer
    columns. -/
theorem nestsAlike_sourceRepository :
    ∃ a b,
      walk Encoding.codecs (sourceRepository "class A:\n    def f(): pass\n") {}
        (Path.ofText "/repo") = .ok a ∧
      walk Encoding.codecs (sourceRepository "class A:\n  def f(): pass\n") {} (Path.ofText "/repo")
        = .ok b ∧
      (a.snapshot.diff b.snapshot).changed = false ∧
      NestsAlike Encoding.codecs (sourceRepository "class A:\n    def f(): pass\n")
        (sourceRepository "class A:\n  def f(): pass\n") {}
        (walkStart (sourceRepository "class A:\n    def f(): pass\n") (Path.ofText "/repo")) 4 := by
  have hgraph : sourceGraph "class A:\n    def f(): pass\n"
      = .ok (methodIds, methodEdges "class:/repo/a.py:0:A") := by decide +kernel
  have hnewGraph : sourceGraph "class A:\n  def f(): pass\n"
      = .ok (methodIds, methodEdges "class:/repo/a.py:0:A") := by decide +kernel
  obtain ⟨a, b, ha, hb, hdiff, hedges, hnewEdges⟩ := exists_walk_of_sourceGraph hgraph hnewGraph
  obtain ⟨-, -, hiff⟩ := sameEdges_iff_of_diff ha hb hdiff
  refine ⟨a, b, ha, hb, hdiff, (hiff 4 rfl).1 fun edge => ?_⟩
  rw [hedges, hnewEdges]

/-- When the method is moved out of the class, no id changes, but the class does not contain it. -/
theorem diff_sourceRepository_moved :
    ∃ a b,
      walk Encoding.codecs (sourceRepository "class A:\n    def f(): pass\n") {}
        (Path.ofText "/repo") = .ok a ∧
      walk Encoding.codecs (sourceRepository "class A:\ndef f(): pass\n") {} (Path.ofText "/repo")
        = .ok b ∧
      (a.snapshot.diff b.snapshot).changed = false ∧
      { source := "class:/repo/a.py:0:A", target := "function:/repo/a.py:1:f" } ∈ a.snapshot.edges ∧
      { source := "class:/repo/a.py:0:A", target := "function:/repo/a.py:1:f" } ∉ b.snapshot.edges ∧
      { source := "file:/repo/a.py", target := "function:/repo/a.py:1:f" } ∈ b.snapshot.edges := by
  have hgraph : sourceGraph "class A:\n    def f(): pass\n"
      = .ok (methodIds, methodEdges "class:/repo/a.py:0:A") := by decide +kernel
  have hnewGraph : sourceGraph "class A:\ndef f(): pass\n"
      = .ok (methodIds, methodEdges "file:/repo/a.py") := by decide +kernel
  obtain ⟨a, b, ha, hb, hdiff, hedges, hnewEdges⟩ := exists_walk_of_sourceGraph hgraph hnewGraph
  refine ⟨a, b, ha, hb, hdiff, ?_⟩
  rw [hedges, hnewEdges]
  decide

end SourceOutline
