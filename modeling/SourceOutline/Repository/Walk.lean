import SourceOutline.Filter
import SourceOutline.Graph.Builder
import SourceOutline.Repository.Reading

set_option autoImplicit false

/-! # Walking a repository

A walk visits a folder and everything below it, each folder's entries in the order of their names,
and reports a node for every folder, file and definition and a reason for everything that had to be
skipped. Symbolic links may lead back into a folder whose entries are being visited: such a folder
is skipped. So the folders that are open at one time are distinct, and since a volume has finitely
many, the walk ends. Folders may nest to any depth. -/

namespace SourceOutline

/-! ## Findings -/

/-- What a walk reports: a node, or an entry that it skipped and why. -/
inductive Finding where
  | node (node : Node)
  | skipped (path : Path) (reason : String)
deriving Repr, DecidableEq

/-- The node of a finding. -/
def Finding.node? : Finding → Option Node
  | node n => some n
  | skipped _ _ => none

/-- The path and reason of an entry that was skipped. -/
def Finding.skipped? : Finding → Option (String × String)
  | node _ => none
  | skipped path reason => some (path.text, reason)

/-- The node of the folder at a path. -/
def folderNode (path : Path) (label : String) (parentId : Option String) : Node where
  id := folderId path.text
  label := label
  kind := folderKind
  sourcePath := path.text
  parentId := parentId

/-- The node of the file at a path. -/
def fileNode (path : Path) (label parentId : String) : Node where
  id := fileId path.text
  label := label
  kind := fileKind
  sourcePath := path.text
  parentId := some parentId

/-! ## Entries -/

/-- What an entry of a folder is to a walk. -/
inductive EntryRole where
  | folder
  | file
  | ignored
  /-- An entry that cannot be told, and why. -/
  | failed (reason : String)
deriving Repr, DecidableEq

/-- The role of an object that is not a link. -/
def Object.role : Object → EntryRole
  | folder _ => .folder
  | file _ _ => .file
  | link _ | pipe => .ignored

/-- What the link at a path is to a walk: what it leads to, but a folder only if links to folders
    are followed. -/
def linkRole (volume : Volume) (follow : Bool) (path : Path) : EntryRole :=
  match volume.locate path with
  | .error .notFound => .failed "broken symlink"
  | .error fault => .failed fault.message
  | .ok target =>
    match (volume.object? target).map Object.role with
    | some .folder => if follow then .folder else .ignored
    | some role => role
    | none => .ignored

/-- What the entry of a folder at a location is to a walk that has come there by a path. -/
def entryRole (volume : Volume) (follow : Bool) (location : Location) (path : Path) (name : Name) :
    EntryRole :=
  match volume.object? (name :: location) with
  | some (.link _) => linkRole volume follow (path.child name)
  | some object => object.role
  | none => .ignored

/-! ## The walk -/

/-- The findings of a supported file: its node, and either its definitions or why it is skipped. -/
def visitFile (codecs : Codecs) (volume : Volume) (settings : Settings) (path : Path)
    (name : Name) (parentId : String) : Except ScanFault (List Finding) := do
  let node := fileNode path name.text parentId
  let scan ← scanFile codecs volume settings.scanOptions path node.id
  return .node node :: match scan.skipReason with
    | some reason => [.skipped path reason]
    | none => scan.nodes.map .node

/-- The findings of an entry. `enter` visits what is in a folder at a path with a node id. -/
def visitEntry (codecs : Codecs) (volume : Volume) (settings : Settings) (location : Location)
    (path : Path) (parentId : String) (enter : Path → String → Except ScanFault (List Finding))
    (name : Name) : Except ScanFault (List Finding) :=
  if settings.isExcluded name.text then .ok []
  else
    let child := path.child name
    match entryRole volume settings.followLinks.isTrue location path name with
    | .failed reason => .ok [.skipped child reason]
    | .ignored => .ok []
    | .folder => do
      let node := folderNode child name.text (some parentId)
      return .node node :: (← enter child node.id)
    | .file => do
      if ← (settings.isSupported name.text).mapError .settings then
        visitFile codecs volume settings child name parentId
      else return []

/-- The findings of entries, one after another. -/
def visitEntries (visit : Name → Except ScanFault (List Finding)) :
    List Name → Except ScanFault (List Finding)
  | [] => .ok []
  | name :: rest => do
    let first ← visit name
    let others ← visitEntries visit rest
    return first ++ others

/-- The names of the entries of a folder in the order of a visit. -/
def Volume.sortedNames (volume : Volume) (location : Location) : List Name :=
  (volume.namesIn location).mergeSort fun a b => decide (a.text ≤ b.text)

/-- The reason for which a folder is skipped that is being visited already. -/
def cycleReason : String := "symlink cycle back to an enclosing directory"

/-- The findings below the folder at a path. The locations of the folders being visited are
    `entered`; a folder that is one of them is not entered again, whether it would open or not. -/
def visitFolder (codecs : Codecs) (volume : Volume) (settings : Settings)
    (entered : List Location) (path : Path) (id : String) : Except ScanFault (List Finding) :=
  if path.hasNull then .error (.read (.file .nullCharacter))
  else if _hentered : volume.leadsInto path entered then .ok [.skipped path cycleReason]
  else
    match _hopen : volume.openFolder path with
    | .error fault => .ok [.skipped path fault.message]
    | .ok location =>
      visitEntries
        (visitEntry codecs volume settings location path id fun child childId =>
          visitFolder codecs volume settings (location :: entered) child childId)
        (volume.sortedNames location)
termination_by (volume.folders.filter fun location => decide (location ∉ entered)).length
decreasing_by
  obtain ⟨hfolder, hreal⟩ := Volume.openFolder_ok _hopen
  have hnew : location ∉ entered := by simpa [Volume.leadsInto, hreal] using _hentered
  refine length_filter_lt ?_ (Volume.mem_folders_of_object? hfolder) (by simpa using hnew) (by simp)
  intro x hx
  simp only [List.mem_cons, not_or, decide_eq_true_eq] at hx ⊢
  exact hx.2

/-! ## Results -/

/-- What a walk gives: the graph, and what was skipped with the reasons. -/
structure WalkResult where
  snapshot : Snapshot
  skipped : List (String × String)
deriving Repr, DecidableEq

/-- Why a walk fails. -/
inductive WalkFault where
  | scan (fault : ScanFault)
  | build (fault : BuildFault)
deriving Repr, DecidableEq

/-- The wording of a fault. -/
def WalkFault.message : WalkFault → String
  | scan fault => fault.message
  | build fault => fault.message

/-- The label of the folder that a walk starts from: its name, or its path if it has none. -/
def rootLabel (path : Path) : String :=
  if path.fileName = "" then path.text else path.fileName

/-- The findings of a walk from the folder at a path, which leads there from the top. -/
def findings (codecs : Codecs) (volume : Volume) (settings : Settings) (root : Path) :
    Except ScanFault (List Finding) := do
  let node := folderNode root (rootLabel root) none
  return .node node :: (← visitFolder codecs volume settings [] root node.id)

/-- Walk a repository. A root that does not lead from the top is taken in the working folder. -/
def walk (codecs : Codecs) (volume : Volume) (settings : Settings) (root : Path) :
    Except WalkFault WalkResult := do
  let found ← (findings codecs volume settings
    (Path.absolute volume.working.path root)).mapError .scan
  match ({} : GraphBuilder).extend (found.filterMap Finding.node?) with
  | (_, some fault) => throw (.build fault)
  | (builder, none) =>
    return { snapshot := builder.build, skipped := found.filterMap Finding.skipped? }

end SourceOutline
