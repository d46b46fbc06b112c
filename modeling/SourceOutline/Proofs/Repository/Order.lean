import SourceOutline.Proofs.Graph.Drawing
import SourceOutline.Proofs.Repository.Coverage

set_option autoImplicit false

/-! # The order of a walk

The nodes of a walk come in preorder. A file is followed by its definitions: those that are read
while some scopes are open hang under these scopes, the ones under the innermost first, and a scope
that has been closed gets no more of them (`HangsUnder`). A folder is followed by the trees of its
entries, in the order of their names (`exists_forest_visitFolder`). -/

namespace SourceOutline

variable {codecs : Codecs}

/-! ## The definitions of a text -/

/-- Trees of definitions that hang under one id, from line `index` on and in the order of their
    lines. -/
structure IsOutlineForest (index : Nat) (id : String) (trees : List NodeTree) : Prop where
  parentId : ∀ tree ∈ trees, tree.root.parentId = some id
  isContainment : ∀ tree ∈ trees, tree.IsContainment
  startLine : ∀ tree ∈ trees, (index : Int) ≤ tree.root.startLine
  ordered : trees.Pairwise fun a b => a.root.startLine < b.root.startLine

/-- Definitions from line `index` on that hang under scopes, innermost first: those under the first
    scope, then those under the next one, and so on. -/
inductive HangsUnder (index : Nat) : List String → List Node → Prop
  | nil : HangsUnder index [] []
  | cons {id : String} {ids : List String} {trees : List NodeTree} {rest : List Node}
      (hfirst : IsOutlineForest index id trees) (hrest : HangsUnder index ids rest) :
      HangsUnder index (id :: ids) (NodeTree.preorderAll trees ++ rest)

namespace HangsUnder

variable {index : Nat} {ids : List String} {nodes : List Node}

theorem close (h : HangsUnder index ids nodes) (id : String) :
    HangsUnder index (id :: ids) nodes := by
  have hnone : IsOutlineForest index id [] := ⟨nofun, nofun, nofun, .nil⟩
  exact .cons hnone h

theorem closeAll (h : HangsUnder index ids nodes) (closed : List String) :
    HangsUnder index (closed ++ ids) nodes := by
  induction closed with
  | nil => exact h
  | cons id closed ih => exact ih.close id

theorem empty (ids : List String) : HangsUnder index ids [] := by
  induction ids with
  | nil => exact .nil
  | cons id ids ih => exact ih.close id

theorem of_succ (h : HangsUnder (index + 1) ids nodes) : HangsUnder index ids nodes := by
  induction h with
  | nil => exact .nil
  | cons hfirst _ ih =>
    refine .cons ⟨hfirst.parentId, hfirst.isContainment, fun tree htree => ?_, hfirst.ordered⟩ ih
    have := hfirst.startLine tree htree
    omega

/-- A definition on line `index` under the innermost scope comes before those under itself, and
    these come before the others under the scope. -/
theorem opening {node : Node} {id : String} (hid : node.parentId = some id)
    (hkind : node.kind ≠ folderKind) (hline : node.startLine = index)
    (h : HangsUnder (index + 1) (node.id :: id :: ids) nodes) :
    HangsUnder index (id :: ids) (node :: nodes) := by
  cases h with
  | @cons _ _ below _ hbelow hrest =>
    have htree : (NodeTree.node node below).IsContainment := by
      refine .node hbelow.parentId (hbelow.ordered.imp fun hlt => ?_) hbelow.isContainment
      rw [Node.IsBefore, if_neg hkind]
      exact hlt
    cases hrest with
    | @cons _ _ trees rest htrees hrest =>
      have hforest : IsOutlineForest index id (.node node below :: trees) := by
        refine ⟨List.forall_mem_cons.2 ⟨hid, htrees.parentId⟩,
          List.forall_mem_cons.2 ⟨htree, htrees.isContainment⟩,
          List.forall_mem_cons.2 ⟨Int.le_of_eq hline.symm, fun tree hmem => ?_⟩,
          List.pairwise_cons.2 ⟨fun tree hmem => ?_, htrees.ordered⟩⟩
        · have := htrees.startLine tree hmem
          omega
        · have hlater := htrees.startLine tree hmem
          have hfirst : (NodeTree.node node below).root.startLine = index := hline
          omega
      have hnodes : node :: (NodeTree.preorderAll below ++ (NodeTree.preorderAll trees ++ rest))
          = NodeTree.preorderAll (.node node below :: trees) ++ rest := by
        rw [NodeTree.preorderAll, NodeTree.preorder, List.cons_append, List.cons_append,
          List.append_assoc]
      rw [hnodes]
      exact .cons hforest hrest.of_succ

end HangsUnder

namespace ScopeStack

variable {δ : Type}

/-- The ids of the open scopes, innermost first. -/
def ids (stack : ScopeStack δ) : List String :=
  stack.inner.map (·.id) ++ [stack.bottom.id]

theorem ids_eq_cons (stack : ScopeStack δ) : ∃ rest, stack.ids = stack.top.id :: rest := by
  obtain ⟨inner, bottom⟩ := stack
  cases inner with
  | nil => exact ⟨[], rfl⟩
  | cons scope inner => exact ⟨_, rfl⟩

theorem exists_ids_eq_append [LE δ] [DecidableLE δ] (stack : ScopeStack δ) (depth : δ) :
    ∃ closed, stack.ids = closed ++ (stack.closeTo depth).ids := by
  refine ⟨(stack.inner.takeWhile fun scope => decide (depth ≤ scope.depth)).map (·.id), ?_⟩
  simp only [ids, closeTo]
  rw [← List.append_assoc, ← List.map_append, List.takeWhile_append_dropWhile]

end ScopeStack

/-- The definitions of the lines from `index` on hang under the scopes that are open there. -/
theorem hangsUnder_outlineFrom {δ : Type} [Add δ] [LE δ] [DecidableLE δ]
    (context : ScanContext δ) (lines after : List Line) :
    ∀ (index : Nat) (scopes : ScopeStack δ),
      HangsUnder index scopes.ids (outlineFrom context lines index scopes after) := by
  induction after with
  | nil => exact fun index scopes => .empty scopes.ids
  | cons line after ih =>
    intro index scopes
    rw [outlineFrom]
    cases hopens : Definition.ofLine? line with
    | none => exact (ih (index + 1) scopes).of_succ
    | some definition =>
      obtain ⟨closed, hclosed⟩ := scopes.exists_ids_eq_append (context.ruler.indentation line)
      obtain ⟨rest, hrest⟩ := (scopes.closeTo (context.ruler.indentation line)).ids_eq_cons
      have hlater := ih (index + 1) ((scopes.closeTo (context.ruler.indentation line)).push
        { depth := context.ruler.indentation line
          id := (definition.toNode context lines index
            (blockLength context.ruler (context.ruler.indentation line) after)
            (scopes.closeTo (context.ruler.indentation line)).top.id).id
          endLine := (definition.toNode context lines index
            (blockLength context.ruler (context.ruler.indentation line) after)
            (scopes.closeTo (context.ruler.indentation line)).top.id).endLine })
      rw [hclosed, hrest]
      refine HangsUnder.closeAll (.opening rfl definition.kind.label_ne.1 rfl ?_) closed
      rw [← hrest]
      exact hlater

theorem exists_forest_outline {δ : Type} [Add δ] [LE δ] [DecidableLE δ]
    (context : ScanContext δ) (source : String) :
    ∃ trees, outline context source = NodeTree.preorderAll trees ∧
      IsOutlineForest 0 context.fileId trees := by
  have h : HangsUnder 0 [context.fileId] (outline context source) :=
    hangsUnder_outlineFrom context (splitLines source.toList) (splitLines source.toList) 0
      (ScopeStack.ofFile context.ruler.outside context.fileId)
  generalize outline context source = nodes at h
  cases h with
  | @cons _ _ trees _ htrees hrest =>
    cases hrest with
    | nil => exact ⟨trees, List.append_nil _, htrees⟩

theorem ScanOptions.exists_forest_outline {options : ScanOptions}
    {sourcePath fileId source : String} {nodes : List Node}
    (h : options.outline sourcePath fileId source = .ok nodes) :
    ∃ trees, nodes = NodeTree.preorderAll trees ∧ IsOutlineForest 0 fileId trees := by
  obtain ⟨snippetLines, rfl⟩ := eq_outlineWith h
  obtain ⟨δ, _, _, _, ruler, houtline⟩ :=
    options.exists_ruler snippetLines sourcePath fileId source
  rw [houtline]
  exact SourceOutline.exists_forest_outline _ _

/-! ## Files and folders -/

/-- The trees of entries of a folder: they hang under it, and their tops are named after some of the
    entries, in the same order. -/
structure IsEntryForest (id : String) (names : List Name) (trees : List NodeTree) : Prop where
  parentId : ∀ tree ∈ trees, tree.root.parentId = some id
  isContainment : ∀ tree ∈ trees, tree.IsContainment
  labels : (trees.map fun tree => tree.root.label).Sublist (names.map (·.text))

section

variable {volume : Volume} {settings : Settings} {path : Path} {name : Name} {id : String}
  {found : List Finding}

/-- The nodes of findings are those of the trees of entries. -/
def AreEntries (id : String) (names : List Name) (found : List Finding) : Prop :=
  ∃ trees, found.filterMap Finding.node? = NodeTree.preorderAll trees ∧
    IsEntryForest id names trees

theorem AreEntries.of_no_node (names : List Name) (h : found.filterMap Finding.node? = []) :
    AreEntries id names found :=
  ⟨[], h, nofun, nofun, List.nil_sublist _⟩

theorem AreEntries.of_tree {tree : NodeTree} (h : found.filterMap Finding.node? = tree.preorder)
    (hid : tree.root.parentId = some id) (htree : tree.IsContainment)
    (hlabel : tree.root.label = name.text) : AreEntries id [name] found := by
  refine ⟨[tree], by rw [h, NodeTree.preorderAll, NodeTree.preorderAll, List.append_nil],
    List.forall_mem_singleton.2 hid, List.forall_mem_singleton.2 htree, ?_⟩
  rw [List.map_singleton, List.map_singleton, hlabel]

theorem AreEntries.append {names others : List Name} {more : List Finding}
    (h : AreEntries id names found) (hmore : AreEntries id others more) :
    AreEntries id (names ++ others) (found ++ more) := by
  obtain ⟨trees, hnodes, htrees⟩ := h
  obtain ⟨moreTrees, hmoreNodes, hmoreTrees⟩ := hmore
  refine ⟨trees ++ moreTrees, ?_, List.forall_mem_append.2 ⟨htrees.parentId, hmoreTrees.parentId⟩,
    List.forall_mem_append.2 ⟨htrees.isContainment, hmoreTrees.isContainment⟩, ?_⟩
  · rw [List.filterMap_append, hnodes, hmoreNodes, NodeTree.preorderAll_append]
  · rw [List.map_append, List.map_append]
    exact htrees.labels.append hmoreTrees.labels

theorem areEntries_visitFile
    (h : visitFile codecs volume settings path name id = .ok found) :
    AreEntries id [name] found := by
  rcases visitFile_eq_ok h with ⟨reason, -, rfl⟩ | ⟨text, nodes, houtline, rfl⟩
  · have htree : (NodeTree.node (fileNode path name.text id) []).IsContainment :=
      .node nofun .nil nofun
    have hnodes : [Finding.node (fileNode path name.text id), .skipped path reason].filterMap
        Finding.node? = (NodeTree.node (fileNode path name.text id) []).preorder := rfl
    exact .of_tree hnodes rfl htree rfl
  · obtain ⟨trees, rfl, htrees⟩ := ScanOptions.exists_forest_outline houtline
    have htree : (NodeTree.node (fileNode path name.text id) trees).IsContainment := by
      have hkind : (fileNode path name.text id).kind ≠ folderKind := folderKind_ne_fileKind.symm
      refine .node htrees.parentId (htrees.ordered.imp fun hlt => ?_) htrees.isContainment
      rw [Node.IsBefore, if_neg hkind]
      exact hlt
    have hnodes : (Finding.node (fileNode path name.text id) ::
        (NodeTree.preorderAll trees).map Finding.node).filterMap Finding.node?
        = (NodeTree.node (fileNode path name.text id) trees).preorder := by
      rw [List.filterMap_cons, List.filterMap_map, NodeTree.preorder]
      exact congrArg _ List.filterMap_some
    exact .of_tree hnodes rfl htree rfl

/-- A folder with the trees of its entries, whose names are in order, is a tree. -/
theorem IsEntryForest.isContainment_folder {names : List Name} {trees : List NodeTree}
    (label : String) (parentId : Option String)
    (h : IsEntryForest (folderId path.text) names trees)
    (hnames : names.Pairwise fun a b => a.text < b.text) :
    (NodeTree.node (folderNode path label parentId) trees).IsContainment := by
  have hlabels : (trees.map fun tree => tree.root.label).Pairwise (· < ·) :=
    (List.pairwise_map.2 hnames).sublist h.labels
  have hkind : (folderNode path label parentId).kind = folderKind := rfl
  refine .node h.parentId ((List.pairwise_map.1 hlabels).imp fun hlt => ?_) h.isContainment
  rw [Node.IsBefore, if_pos hkind]
  exact hlt

/-- An entry gives at most one tree, if what is found in folders below are the trees of entries. -/
theorem areEntries_visitEntry {location : Location}
    {enter : Path → String → Except ScanFault (List Finding)}
    (henter : ∀ (child : Path) (childId : String) (found : List Finding),
      enter child childId = .ok found →
        ∃ names, names.Pairwise (fun a b => a.text < b.text) ∧ AreEntries childId names found)
    (h : visitEntry codecs volume settings location path id enter name = .ok found) :
    AreEntries id [name] found := by
  by_cases hfolder : IsFolderEntry volume settings location path name
  · rw [visitEntry_of_isFolderEntry hfolder] at h
    obtain ⟨below, hbelow, rfl⟩ := map_eq_ok_iff.1 h
    obtain ⟨names, hnames, trees, hnodes, htrees⟩ := henter _ _ _ hbelow
    have htree := htrees.isContainment_folder name.text (some id) hnames
    refine .of_tree ?_ rfl htree rfl
    rw [List.filterMap_cons, hnodes]
    rfl
  by_cases hfile : IsFileEntry volume settings location path name
  · rw [visitEntry_of_isFileEntry hfile] at h
    exact areEntries_visitFile h
  -- any other entry gives no node
  refine .of_no_node _ ?_
  rcases visitEntry_of_neither hfolder hfile with ⟨fault, -, herror⟩ | hempty | ⟨_, -, hskip⟩
  · rw [herror] at h
    cases h
  · rw [hempty] at h
    cases h
    rfl
  · rw [hskip] at h
    cases h
    rfl

theorem areEntries_visitEntries {visit : Name → Except ScanFault (List Finding)}
    (hvisit : ∀ (name : Name) (found : List Finding), visit name = .ok found →
      AreEntries id [name] found) :
    ∀ (names : List Name) (found : List Finding), visitEntries visit names = .ok found →
      AreEntries id names found := by
  intro names
  induction names with
  | nil =>
    intro found h
    cases h
    exact .of_no_node _ rfl
  | cons name rest ih =>
    intro found h
    obtain ⟨first, others, hfirst, hothers, rfl⟩ := visitEntries_cons_eq_ok_iff.1 h
    exact (hvisit name first hfirst).append (ih others hothers)

theorem Volume.pairwise_sortedNames (volume : Volume) (location : Location) :
    (volume.sortedNames location).Pairwise fun a b => a.text < b.text := by
  have hsorted : (volume.sortedNames location).Pairwise
      fun a b => decide (a.text ≤ b.text) = true := by
    refine List.pairwise_mergeSort (fun a b c hab hbc => ?_) (fun a b => ?_) _
    · exact decide_eq_true (String.le_trans (of_decide_eq_true hab) (of_decide_eq_true hbc))
    · simpa using String.le_total a.text b.text
  refine (hsorted.and (volume.nodup_sortedNames location)).imp fun {a b} hab => ?_
  obtain ⟨hle, hne⟩ := hab
  -- names with the same text are the same
  refine Decidable.byContradiction fun hlt => hne ?_
  have htext := String.le_antisymm (of_decide_eq_true hle) (String.not_lt.1 hlt)
  cases a
  cases b
  cases htext
  rfl

/-- What is found in a folder are the trees of entries whose names are in order. -/
theorem areEntries_visitFolder (entered : List Location) (path : Path) (id : String) :
    ∀ found : List Finding, visitFolder codecs volume settings entered path id = .ok found →
      ∃ names, names.Pairwise (fun a b => a.text < b.text) ∧ AreEntries id names found := by
  fun_induction visitFolder codecs volume settings entered path id with
  | case1 entered path id hnull =>
    rintro found h
    cases h
  | case2 entered path id hnull hentered =>
    rintro found h
    cases h
    exact ⟨[], .nil, .of_no_node _ rfl⟩
  | case3 entered path id hnull hentered fault hopen =>
    rintro found h
    cases h
    exact ⟨[], .nil, .of_no_node _ rfl⟩
  | case4 entered path id hnull hentered location hopen ih =>
    intro found h
    refine ⟨_, volume.pairwise_sortedNames location, ?_⟩
    refine areEntries_visitEntries (fun name below hvisit => ?_) _ found h
    exact areEntries_visitEntry ih hvisit

end

/-! ## The walk -/

/-- **A walk gives a preorder.** Whatever the volume, the settings and the root, the nodes of a walk
    come in preorder: what a folder, a file or a definition contains is a block right after it, the
    entries of a folder come in strictly increasing order of their labels, and the definitions below
    a file or a definition in strictly increasing order of their lines. If no label holds a control
    character, the drawing has one line for each node in the same order, indented by four columns
    for each ancestor, so that the parent of a node is on the nearest earlier line that is one level
    shallower. -/
theorem walk_isPreorder {volume : Volume} {settings : Settings} {root : Path} {result : WalkResult}
    (h : walk codecs volume settings root = .ok result) :
    result.snapshot.IsPreorder ∧
    ((∀ node ∈ result.snapshot.nodes, IsUnbroken node.label) →
      ∃ lines, result.snapshot.IsDrawnAs lines) := by
  obtain ⟨found, hfound⟩ := exists_walk_eq_ok_iff.1 ⟨result, h⟩
  obtain ⟨hwalk, htree⟩ := walk_eq_of_visitFolder hfound
  obtain rfl := Except.ok.inj (h.symm.trans hwalk)
  obtain ⟨names, hnames, trees, hnodes, htrees⟩ := areEntries_visitFolder [] _ _ found hfound
  have hcontainment := htrees.isContainment_folder (rootLabel (walkStart volume root)) none hnames
  have hpreorder : (WalkResult.ofFound (walkStart volume root) found).snapshot.nodes
      = (NodeTree.node (rootNode (walkStart volume root)) trees).preorder := by
    rw [NodeTree.preorder, ← hnodes]
    rfl
  have hclosed : (NodeTree.node (rootNode (walkStart volume root)) trees).IsClosed := by
    refine ⟨?_, fun n _ => nofun⟩
    rw [← hpreorder]
    exact htree.ids_nodup
  exact ⟨hcontainment.isPreorder hclosed hpreorder,
    hcontainment.exists_isDrawnAs hclosed rfl hpreorder⟩

/-- A repository with a file in a folder, in which there are a class with a method and a
    function. -/
def nestedRepository : Volume where
  entries :=
    [([repositoryName], .folder true),
     ([⟨"a", by decide⟩, repositoryName], .folder true),
     ([⟨"b.py", by decide⟩, ⟨"a", by decide⟩, repositoryName],
      .file (encodeUtf8 "class A:\n  def f():\n    pass\ndef g():\n  pass".toList) true)]
  distinct := by decide
  plain := by decide

/-- Its walk gives a preorder, drawn in one line for each of six nodes. -/
theorem walk_isPreorder_nestedRepository :
    ∃ result, walk Encoding.codecs nestedRepository {} (Path.ofText "/repo") = .ok result ∧
      (∀ node ∈ result.snapshot.nodes, IsUnbroken node.label) ∧ result.snapshot.IsPreorder ∧
      (∃ lines, result.snapshot.IsDrawnAs lines) ∧
      result.snapshot.renderTree = .ok ("repo\n└── a\n    └── b.py\n"
        ++ "        ├── A  class 0-2\n        │   └── f  function 1-2\n"
        ++ "        └── g  function 3-4\n") := by
  have hwalk : (walk Encoding.codecs nestedRepository {} (Path.ofText "/repo")).map
      (fun result => (result.snapshot.nodes.map (·.label), result.snapshot.renderTree))
      = .ok (["repo", "a", "b.py", "A", "f", "g"], .ok ("repo\n└── a\n    └── b.py\n"
        ++ "        ├── A  class 0-2\n        │   └── f  function 1-2\n"
        ++ "        └── g  function 3-4\n")) := by decide +kernel
  obtain ⟨result, hresult, hpair⟩ := map_eq_ok_iff.1 hwalk
  obtain ⟨hlabels, hdrawing⟩ := Prod.mk.inj hpair
  have hplain : ∀ node ∈ result.snapshot.nodes, IsUnbroken node.label := by
    intro node hnode
    have hin : node.label ∈ result.snapshot.nodes.map (·.label) := List.mem_map_of_mem hnode
    rw [← hlabels] at hin
    have hall : ∀ label ∈ ["repo", "a", "b.py", "A", "f", "g"], IsUnbroken label := by decide
    exact hall node.label hin
  obtain ⟨hpreorder, hdrawn⟩ := walk_isPreorder hresult
  exact ⟨result, hresult, hplain, hpreorder, hdrawn hplain, hdrawing.symm⟩

end SourceOutline
