import SourceOutline.Proofs.Graph.Growth
import SourceOutline.Proofs.Graph.Identity
import SourceOutline.Proofs.Outline.Nodes
import SourceOutline.Proofs.Repository.Visit
import SourceOutline.Proofs.Volume.PathText

set_option autoImplicit false

/-! # A walk gives a tree

Every node of a walk stands at a path, and its id tells the path (`IsIdAt.path_eq`). What is found
in a folder stands at paths that go on from the path of the folder by the name of an entry, so two
entries have no id in common, nor has an entry one with its folder (`IsIdUnder.name_eq`). A file
adds the definitions of its text, told apart by their lines (`follows_outlineFrom`). So whatever
comes first, the nodes of a folder can follow it if the folder has come and nothing below it has:
that is the invariant (`Grows`), and `grows_visitFolder` is the induction over the walk that carries
it. -/

namespace SourceOutline

variable {codecs : Codecs}

/-! ## The definitions of a text -/

section Outline

variable {δ : Type} (context : ScanContext δ) (lines : List Line)

theorem Definition.isReversed_toNode (definition : Definition) (index length : Nat)
    (parentId : String) :
    (definition.toNode context lines index length parentId).isReversed = false := by
  have hle : ¬ (index : Int) + length < index := by omega
  simp only [toNode, Node.isReversed, hle, decide_false]

variable [Add δ] [LE δ] [DecidableLE δ]

/-- The definitions of the lines from `index` on can follow nodes among which are those of the open
    scopes and none of a definition on these lines. -/
theorem follows_outlineFrom (after : List Line) :
    ∀ (index : Nat) (scopes : ScopeStack δ) (known : List String),
      (∀ scope ∈ scopes.toList, scope.id ∈ known) →
      (∀ (kind : DefinitionKind) (line : Nat) (name : String), index ≤ line →
        ':' ∉ name.toList → definitionId kind.label context.sourcePath line name ∉ known) →
      Follows known (outlineFrom context lines index scopes after) := by
  induction after with
  | nil => exact fun _ _ _ _ _ => .nil
  | cons line after ih =>
    intro index scopes known hscopes hnew
    rw [outlineFrom]
    cases hopens : Definition.ofLine? line with
    | none =>
      exact ih (index + 1) scopes known hscopes fun kind line name hline =>
        hnew kind line name (by omega)
    | some definition =>
      have hname := Definition.colon_notMem_name hopens
      have henclosing : ∀ scope ∈ (scopes.closeTo (context.ruler.indentation line)).toList,
          scope.id ∈ known :=
        fun scope hscope => hscopes scope (ScopeStack.mem_toList_of_closeTo hscope)
      refine .cons (hnew definition.kind index definition.name (Nat.le_refl _) hname) rfl
        (henclosing _ (ScopeStack.top_mem_toList _)) (definition.isReversed_toNode _ _ _ _ _)
        (ih (index + 1) _ _ ?_ ?_)
      · intro scope hscope
        rcases ScopeStack.mem_toList_push.1 hscope with hopen | rfl
        · exact List.mem_cons_of_mem _ (henclosing scope hopen)
        · exact List.mem_cons_self
      · -- the definition on line `index` is not one on a later line
        intro kind line name hline hcolon hmem
        rcases List.mem_cons.1 hmem with hid | hknown
        · have := (definitionId_inj hcolon hname hid).2.2.1
          omega
        · exact hnew kind line name (by omega) hcolon hknown

theorem isIdAt_outlineFrom (after : List Line) (index : Nat) (scopes : ScopeStack δ) :
    ∀ node ∈ outlineFrom context lines index scopes after, IsIdAt context.sourcePath node.id := by
  intro node hnode
  obtain ⟨definition, i, length, parentId, hname, -, -, rfl⟩ :=
    exists_toNode_of_mem_outlineFrom context lines after index scopes node hnode
  exact .definition definition.kind i hname

/-- The definitions of a text can follow nodes among which is the file and no definition of it. -/
theorem follows_outline {source : String} {known : List String} (hfile : context.fileId ∈ known)
    (hnew : ∀ (kind : DefinitionKind) (line : Nat) (name : String), ':' ∉ name.toList →
      definitionId kind.label context.sourcePath line name ∉ known) :
    Follows known (outline context source) ∧
      ∀ node ∈ outline context source, IsIdAt context.sourcePath node.id := by
  refine ⟨follows_outlineFrom context _ _ 0 _ known ?_ ?_, isIdAt_outlineFrom context _ _ 0 _⟩
  · intro scope hscope
    rw [List.mem_singleton.1 hscope]
    exact hfile
  · exact fun kind line name _ => hnew kind line name

end Outline

theorem ScanOptions.eq_outlineWith {options : ScanOptions} {sourcePath fileId source : String}
    {nodes : List Node} (h : options.outline sourcePath fileId source = .ok nodes) :
    ∃ snippetLines, nodes = options.outlineWith snippetLines sourcePath fileId source := by
  unfold outline at h
  split at h
  case h_1 b _ => exact ⟨_, (Except.ok.inj h).symm⟩
  case h_2 n _ => exact ⟨_, (Except.ok.inj h).symm⟩
  case h_3 limit _ =>
    simp only at h
    split at h
    case isTrue => exact ⟨_, (Except.ok.inj h).symm⟩
    case isFalse => cases h

/-- An outline under options measures depths with some ruler, whatever kind of number the tab width
    is. -/
theorem ScanOptions.exists_ruler (options : ScanOptions) (snippetLines : Int)
    (sourcePath fileId source : String) :
    ∃ (δ : Type) (_ : Add δ) (_ : LE δ) (_ : DecidableLE δ) (ruler : Ruler δ),
      options.outlineWith snippetLines sourcePath fileId source
        = SourceOutline.outline { ruler, snippetLines, sourcePath, fileId } source := by
  unfold outlineWith
  split
  · exact ⟨_, _, _, _, _, rfl⟩
  · exact ⟨_, _, _, _, _, rfl⟩
  · exact ⟨_, _, _, _, _, rfl⟩

/-- The definitions of a text under options, whatever these are, can follow nodes likewise. -/
theorem ScanOptions.follows_outline {options : ScanOptions} {sourcePath fileId source : String}
    {nodes : List Node} {known : List String}
    (h : options.outline sourcePath fileId source = .ok nodes) (hfile : fileId ∈ known)
    (hnew : ∀ (kind : DefinitionKind) (line : Nat) (name : String), ':' ∉ name.toList →
      definitionId kind.label sourcePath line name ∉ known) :
    Follows known nodes ∧ ∀ node ∈ nodes, IsIdAt sourcePath node.id := by
  obtain ⟨snippetLines, rfl⟩ := eq_outlineWith h
  obtain ⟨δ, _, _, _, ruler, houtline⟩ :=
    options.exists_ruler snippetLines sourcePath fileId source
  rw [houtline]
  exact SourceOutline.follows_outline _ hfile hnew

theorem ScanOptions.isDefinitionIn_of_mem {options : ScanOptions} {snippetLines : Int}
    {sourcePath fileId source : String} :
    ∀ node ∈ options.outlineWith snippetLines sourcePath fileId source,
      node.IsDefinitionIn sourcePath (splitLines source.toList) snippetLines := by
  obtain ⟨δ, _, _, _, ruler, houtline⟩ :=
    options.exists_ruler snippetLines sourcePath fileId source
  rw [houtline]
  exact fun node hnode => isDefinitionIn_of_mem_outline _ hnode

/-- The parent of a definition in a text under options is the file or a definition on an earlier
    line. -/
theorem ScanOptions.exists_parent_of_mem {options : ScanOptions}
    {sourcePath fileId source : String} {nodes : List Node}
    (h : options.outline sourcePath fileId source = .ok nodes) :
    ∀ node ∈ nodes, node.parentId = some fileId ∨
      ∃ parent ∈ nodes, node.parentId = some parent.id ∧ parent.startLine < node.startLine := by
  obtain ⟨snippetLines, rfl⟩ := eq_outlineWith h
  obtain ⟨δ, _, _, _, ruler, houtline⟩ :=
    options.exists_ruler snippetLines sourcePath fileId source
  rw [houtline]
  exact fun node hnode => exists_parent_of_mem_outline _ hnode

/-! ## Findings that can follow -/

/-- Findings whose nodes can come when the ids `known` have been taken, with ids of some kind. -/
structure Grows (known : List String) (kind : String → Prop) (found : List Finding) : Prop where
  follows : Follows known (found.filterMap Finding.node?)
  ids : ∀ node ∈ found.filterMap Finding.node?, kind node.id

namespace Grows

variable {known : List String} {kind other : String → Prop} {found : List Finding}

theorem of_no_node (h : found.filterMap Finding.node? = []) : Grows known kind found := by
  constructor
  · rw [h]
    exact .nil
  · rw [h]
    exact fun _ hnode => absurd hnode List.not_mem_nil

theorem of_follows {nodes : List Node} (h : Follows known nodes)
    (hkind : ∀ node ∈ nodes, kind node.id) : Grows known kind (nodes.map .node) := by
  have hnodes : (nodes.map Finding.node).filterMap Finding.node? = nodes := by
    rw [List.filterMap_map]
    exact List.filterMap_some
  constructor
  · rwa [hnodes]
  · rwa [hnodes]

theorem cons {node : Node} {parent : String} (hnew : node.id ∉ known)
    (hparent : node.parentId = some parent) (hknown : parent ∈ known)
    (hrange : node.isReversed = false) (hkind : kind node.id)
    (hrest : Grows (node.id :: known) kind found) : Grows known kind (.node node :: found) := by
  refine ⟨.cons hnew hparent hknown hrange hrest.follows, fun n hn => ?_⟩
  rcases List.mem_cons.1 hn with rfl | hlater
  · exact hkind
  · exact hrest.ids n hlater

theorem append {others : List Finding} (h : Grows known kind found)
    (hothers : Grows (((found.filterMap Finding.node?).map (·.id)).reverse ++ known) kind others) :
    Grows known kind (found ++ others) := by
  constructor
  · rw [List.filterMap_append]
    exact h.follows.append hothers.follows
  · rw [List.filterMap_append]
    intro node hnode
    rcases List.mem_append.1 hnode with hnow | hlater
    · exact h.ids node hnow
    · exact hothers.ids node hlater

theorem mono (h : Grows known kind found) (hwider : ∀ id, kind id → other id) :
    Grows known other found :=
  ⟨h.follows, fun node hnode => hwider _ (h.ids node hnode)⟩

end Grows

/-! ## Places below a path -/

section Places

variable {path : Path}

/-- The id of something at a path or at one that goes on from it. -/
def IsIdUnder (path : Path) (id : String) : Prop :=
  ∃ more, IsIdAt (path.extend more).text id

/-- The id of something at a path that goes on by a name. -/
def IsIdBelow (path : Path) (id : String) : Prop :=
  ∃ name, IsIdUnder (path.child name) id

theorem IsIdAt.isIdUnder {id : String} (h : IsIdAt path.text id) : IsIdUnder path id :=
  ⟨[], by rwa [Path.extend, List.append_nil]⟩

theorem IsIdBelow.isIdUnder {id : String} (h : IsIdBelow path id) : IsIdUnder path id := by
  obtain ⟨name, more, hid⟩ := h
  rw [Path.child_eq_extend, Path.extend_extend] at hid
  exact ⟨_, hid⟩

/-- Nothing stands under two entries of a folder. -/
theorem IsIdUnder.name_eq {a b : Name} {id : String} (habsolute : path.isAbsolute = true)
    (ha : IsIdUnder (path.child a) id) (hb : IsIdUnder (path.child b) id) : a = b := by
  obtain ⟨more, ha⟩ := ha
  obtain ⟨others, hb⟩ := hb
  have htext := ha.path_eq hb
  rw [Path.child_eq_extend, Path.child_eq_extend, Path.extend_extend, Path.extend_extend] at htext
  have hsteps := Path.extend_inj_of_text_eq habsolute htext
  exact Step.down.inj (List.cons.inj hsteps).1

theorem IsIdAt.not_isIdBelow {id : String} (habsolute : path.isAbsolute = true)
    (h : IsIdAt path.text id) : ¬ IsIdBelow path id := by
  rintro ⟨name, more, hbelow⟩
  have hpath : path.text = (path.extend []).text := by rw [Path.extend, List.append_nil]
  rw [hpath] at h
  have htext := h.path_eq hbelow
  rw [Path.child_eq_extend, Path.extend_extend] at htext
  exact absurd (Path.extend_inj_of_text_eq habsolute htext) (List.cons_ne_nil _ _).symm

end Places

/-! ## Visits -/

section

variable {volume : Volume} {settings : Settings} {path : Path} {known : List String}
  {found : List Finding}

/-- What is found in a file stands at its path. It can follow nodes among which is the folder of the
    file and none at its path. -/
theorem grows_visitFile {name : Name} {parentId : String}
    (h : visitFile codecs volume settings path name parentId = .ok found)
    (hparent : parentId ∈ known)
    (hnew : ∀ id ∈ known, ¬ IsIdAt path.text id) : Grows known (IsIdAt path.text) found := by
  have hfile : fileId path.text ∉ known := fun hmem => hnew _ hmem .file
  rcases visitFile_eq_ok h with ⟨reason, -, rfl⟩ | ⟨text, nodes, houtline, rfl⟩
  · exact .cons hfile rfl hparent rfl .file (.of_no_node rfl)
  · have hdefinitions : ∀ (kind : DefinitionKind) (line : Nat) (name : String),
        ':' ∉ name.toList →
        definitionId kind.label path.text line name ∉ fileId path.text :: known := by
      intro kind line name hname hmem
      rcases List.mem_cons.1 hmem with hid | hknown
      · exact definitionId_ne_fileId kind _ _ name line hid
      · exact hnew _ hknown (.definition kind line hname)
    obtain ⟨hfollows, hids⟩ :=
      ScanOptions.follows_outline houtline List.mem_cons_self hdefinitions
    exact .cons hfile rfl hparent rfl .file (.of_follows hfollows hids)

/-- What is found at an entry stands under its path. It can follow nodes among which is its folder
    and none under its path, if what is found in folders below behaves likewise. -/
theorem grows_visitEntry {location : Location} {name : Name} {id : String}
    {enter : Path → String → Except ScanFault (List Finding)}
    (henter : ∀ (child : Path) (childId : String) (known : List String) (found : List Finding),
      enter child childId = .ok found → child.isAbsolute = true → childId ∈ known →
      (∀ other ∈ known, ¬ IsIdBelow child other) → Grows known (IsIdBelow child) found)
    (h : visitEntry codecs volume settings location path id enter name = .ok found)
    (habsolute : path.isAbsolute = true) (hid : id ∈ known)
    (hnew : ∀ other ∈ known, ¬ IsIdUnder (path.child name) other) :
    Grows known (IsIdUnder (path.child name)) found := by
  by_cases hfolder : IsFolderEntry volume settings location path name
  · rw [visitEntry_of_isFolderEntry hfolder] at h
    obtain ⟨below, hbelow, rfl⟩ := map_eq_ok_iff.1 h
    have hself : IsIdAt (path.child name).text (folderId (path.child name).text) := .folder
    have hfresh : folderId (path.child name).text ∉ known :=
      fun hmem => hnew _ hmem hself.isIdUnder
    -- the node of the folder stands at its path and so not below it
    have hnone : ∀ other ∈ folderId (path.child name).text :: known,
        ¬ IsIdBelow (path.child name) other := by
      intro other hother
      rcases List.mem_cons.1 hother with rfl | hknown
      · exact hself.not_isIdBelow habsolute
      · exact fun hin => hnew other hknown hin.isIdUnder
    have hgrows := henter _ _ _ below hbelow habsolute List.mem_cons_self hnone
    exact .cons hfresh rfl hid rfl hself.isIdUnder (hgrows.mono fun _ => IsIdBelow.isIdUnder)
  by_cases hfile : IsFileEntry volume settings location path name
  · rw [visitEntry_of_isFileEntry hfile] at h
    have hgrows := grows_visitFile h hid fun other hother hat => hnew other hother hat.isIdUnder
    exact hgrows.mono fun _ => IsIdAt.isIdUnder
  -- any other entry gives no node
  refine .of_no_node ?_
  rcases visitEntry_of_neither hfolder hfile with ⟨fault, -, herror⟩ | hempty | ⟨_, -, hskip⟩
  · rw [herror] at h
    cases h
  · rw [hempty] at h
    cases h
    rfl
  · rw [hskip] at h
    cases h
    rfl

/-- What is found at entries with distinct names stands below their folder. It can follow nodes
    among which is the folder and none under the path of an entry, if this holds of each. -/
theorem grows_visitEntries {visit : Name → Except ScanFault (List Finding)} {id : String}
    (habsolute : path.isAbsolute = true)
    (hvisit : ∀ (name : Name) (known : List String) (found : List Finding),
      visit name = .ok found → id ∈ known →
      (∀ other ∈ known, ¬ IsIdUnder (path.child name) other) →
      Grows known (IsIdUnder (path.child name)) found) :
    ∀ (names : List Name), names.Nodup → ∀ (known : List String) (found : List Finding),
      visitEntries visit names = .ok found → id ∈ known →
      (∀ other ∈ known, ∀ name ∈ names, ¬ IsIdUnder (path.child name) other) →
      Grows known (IsIdBelow path) found := by
  intro names
  induction names with
  | nil =>
    intro _ known found h _ _
    cases h
    exact .of_no_node rfl
  | cons name rest ih =>
    intro hnodup known found h hid hnew
    obtain ⟨hname, hrest⟩ := List.nodup_cons.1 hnodup
    obtain ⟨first, others, hfirst, hothers, rfl⟩ := visitEntries_cons_eq_ok_iff.1 h
    have hgrows := hvisit name known first hfirst hid fun other hother =>
      hnew other hother name List.mem_cons_self
    refine (hgrows.mono fun id hunder => ⟨name, hunder⟩).append
      (ih hrest _ others hothers (List.mem_append_right _ hid) ?_)
    intro other hother otherName hotherName
    rcases List.mem_append.1 hother with hnow | hknown
    · -- what has come now stands under another entry
      obtain ⟨node, hnode, rfl⟩ := List.mem_map.1 (List.mem_reverse.1 hnow)
      intro hunder
      exact hname ((hgrows.ids node hnode).name_eq habsolute hunder ▸ hotherName)
    · exact hnew other hknown otherName (List.mem_cons_of_mem _ hotherName)

theorem Volume.nodup_sortedNames (volume : Volume) (location : Location) :
    (volume.sortedNames location).Nodup := by
  refine (List.mergeSort_perm _ _).nodup_iff.2 ?_
  refine List.Pairwise.filterMap _ ?_ (List.pairwise_map.1 volume.distinct)
  rintro ⟨place, object⟩ ⟨otherPlace, otherObject⟩ hne name hname otherName hother rfl
  cases place with
  | nil => cases hname
  | cons first folder =>
    cases otherPlace with
    | nil => cases hother
    | cons otherFirst otherFolder =>
      simp only [Option.ite_none_right_eq_some, Option.some.injEq] at hname hother
      obtain ⟨rfl, rfl⟩ := hname
      obtain ⟨rfl, rfl⟩ := hother
      exact hne rfl

/-- What is found in a folder stands below its path. It can follow nodes among which is the folder
    and none below its path. -/
theorem grows_visitFolder (entered : List Location) (path : Path) (id : String) :
    ∀ (known : List String) (found : List Finding),
      visitFolder codecs volume settings entered path id = .ok found → path.isAbsolute = true →
      id ∈ known → (∀ other ∈ known, ¬ IsIdBelow path other) →
      Grows known (IsIdBelow path) found := by
  fun_induction visitFolder codecs volume settings entered path id with
  | case1 entered path id hnull =>
    rintro known found h - - -
    cases h
  | case2 entered path id hnull hentered =>
    rintro known found h - - -
    cases h
    exact .of_no_node rfl
  | case3 entered path id hnull hentered fault hopen =>
    rintro known found h - - -
    cases h
    exact .of_no_node rfl
  | case4 entered path id hnull hentered location hopen ih =>
    intro known found h habsolute hid hnew
    refine grows_visitEntries habsolute ?_ _ (volume.nodup_sortedNames location) known found h hid
      fun other hother name _ hunder => hnew other hother ⟨name, hunder⟩
    intro name known found hvisit hid hnew
    exact grows_visitEntry ih hvisit habsolute hid hnew

end

end SourceOutline
