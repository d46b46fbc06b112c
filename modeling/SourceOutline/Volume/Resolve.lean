import SourceOutline.Volume.Basic

set_option autoImplicit false

/-! # Resolving paths

To resolve a path is to take its steps through a volume, replacing every symbolic link on the way by
the path that it stands for. At most forty links are replaced, so a circle of links is found out.
A path whose last name stands for nothing still resolves to the place where that could be made. A
file cannot be made under a name with a slash after it, which only the path of a link can have. -/

namespace SourceOutline

/-- How many symbolic links may be replaced on the way. -/
def linkBudget : Nat := 40

/-- The length of a name in bytes is limited. -/
def Name.isTooLong (name : Name) : Bool :=
  decide (255 < name.text.utf8ByteSize)

/-- The length of a written path in bytes is limited. -/
def Path.isTooLong (path : Path) : Bool :=
  decide (4096 ≤ path.text.utf8ByteSize)

/-- Whether a written path holds a null character. -/
def Path.hasNull (path : Path) : Bool :=
  path.text.toList.contains '\x00'

/-- How far steps lead without replacing a link. -/
inductive Progress where
  /-- To a location where something other than a link stands. -/
  | arrived (location : Location)
  /-- To a link in a folder, with the steps that remain. -/
  | atLink (folder : Location) (name : Name) (target : String) (rest : List Step)
  /-- To a name in a folder that stands for nothing, with the steps that remain. -/
  | vacant (folder : Location) (name : Name) (rest : List Step)
  | fault (fault : FileFault)

/-- What a path resolves to: a location where something stands, or a name in a folder where nothing
    stands yet. -/
inductive Place where
  | present (location : Location)
  | vacant (folder : Location) (name : Name)
deriving Repr, DecidableEq

/-- What becomes of a link that a path ends at. -/
inductive LastLink where
  /-- The link itself is meant. -/
  | kept
  /-- What the link leads to is meant. -/
  | followed
  /-- What the link leads to is meant, as a file that may have to be made. -/
  | written
deriving Repr, DecidableEq

/-- The steps to the folder that holds the entry which a written path ends at, if that entry is
    asked for as a folder by a slash after its name. -/
def stepsAbove? (target : String) : Option (List Step) :=
  let pieces := (piecesBetween '/' target.toList).reverse
  match pieces.dropWhile List.isEmpty with
  | [] => none
  | name :: above =>
    match Step.ofText (String.ofList name) with
    | .down _ =>
      if above.length + 1 = pieces.length then none
      else some (above.reverse.map fun piece => Step.ofText (String.ofList piece))
    | .here | .up => none

namespace Volume

/-- Take steps from a folder up to the first link. -/
def advance (volume : Volume) : Location → List Step → Progress
  | location, [] => .arrived location
  | location, .here :: rest => volume.advance location rest
  | location, .up :: rest => volume.advance location.tail rest
  | location, .down name :: rest =>
    if name.isTooLong then .fault .nameTooLong
    else match volume.object? (name :: location) with
      | none => .vacant location name rest
      | some (.link target) => .atLink location name target rest
      | some (.folder _) => volume.advance (name :: location) rest
      | some _ => if rest.isEmpty then .arrived (name :: location) else .fault .notDirectory

/-- Whether a folder stands at a location. -/
def hasFolder (volume : Volume) (location : Location) : Bool :=
  match volume.object? location with
  | some (.folder _) => true
  | _ => false

/-- Take steps from a folder, replacing up to `budget` links. What becomes of a link that is last is
    told by `last`. -/
def chase (volume : Volume) (last : LastLink) (budget : Nat) (location : Location)
    (steps : List Step) : Except FileFault Place :=
  match volume.advance location steps with
  | .arrived location => .ok (.present location)
  | .vacant folder name rest =>
    if rest.isEmpty then .ok (.vacant folder name) else .error .notFound
  | .fault fault => .error fault
  | .atLink folder name target rest =>
    if rest.isEmpty && last = .kept then .ok (.present (name :: folder))
    else match budget with
      | 0 => .error .tooManyLinks
      | budget + 1 =>
        let start := if PathStart.ofText target = .working then folder else []
        match if rest.isEmpty && last = .written then stepsAbove? target else none with
        | none => volume.chase last budget start (stepsOfText target ++ rest)
        | some above =>
          match volume.chase .followed budget start above with
          | .ok (.present location) =>
            .error (if volume.hasFolder location then .isDirectory else .notDirectory)
          | .ok (.vacant _ _) => .error .notFound
          | .error fault => .error fault

/-- The folder that the steps of a path start from. -/
def startOf (volume : Volume) (path : Path) : Location :=
  if path.isAbsolute then [] else volume.working

/-- What a path resolves to. -/
def resolve (volume : Volume) (last : LastLink) (path : Path) : Except FileFault Place :=
  if path.hasNull then .error .nullCharacter
  else if path.isTooLong then .error .nameTooLong
  else volume.chase last linkBudget (volume.startOf path) path.steps

/-- The location that the steps of a path lead to, all links followed. It does not matter how long
    the path is when it is written. -/
def realLocation? (volume : Volume) (path : Path) : Option Location :=
  match volume.chase .followed linkBudget (volume.startOf path) path.steps with
  | .ok (.present location) => some location
  | .ok (.vacant _ _) | .error _ => none

/-- Whether the steps of a path lead to one of some locations. -/
def leadsInto (volume : Volume) (path : Path) (locations : List Location) : Bool :=
  (volume.realLocation? path).any fun location => decide (location ∈ locations)

/-- The location of what a path stands for, all links followed. -/
def locate (volume : Volume) (path : Path) : Except FileFault Location := do
  match ← volume.resolve .followed path with
  | .present location => return location
  | .vacant _ _ => throw .notFound

theorem realLocation?_of_locate {volume : Volume} {path : Path} {location : Location}
    (h : volume.locate path = .ok location) : volume.realLocation? path = some location := by
  simp only [locate, resolve] at h
  split at h
  · cases h
  split at h
  · cases h
  simp only [realLocation?]
  cases hchase : volume.chase .followed linkBudget (volume.startOf path) path.steps with
  | error fault => rw [hchase] at h; cases h
  | ok place =>
    rw [hchase] at h
    cases place with
    | present found => cases h; rfl
    | vacant folder name => cases h

/-- Whether a path stands for something. A failure that does not tell is passed on. -/
def exists? (volume : Volume) (path : Path) : Except FileFault Bool :=
  match volume.locate path with
  | .ok _ => .ok true
  | .error .notFound | .error .notDirectory | .error .tooManyLinks | .error .nullCharacter =>
    .ok false
  | .error fault => .error fault

/-- Whether a path stands for a folder. A failure that does not tell is passed on. -/
def isFolder? (volume : Volume) (path : Path) : Except FileFault Bool :=
  match volume.locate path with
  | .ok location => .ok (volume.hasFolder location)
  | .error .notFound | .error .notDirectory | .error .tooManyLinks | .error .nullCharacter =>
    .ok false
  | .error fault => .error fault

/-- The location of the folder that a path stands for, if it tells its entries. -/
def openFolder (volume : Volume) (path : Path) : Except FileFault Location := do
  let location ← volume.locate path
  match volume.object? location with
  | some (.folder true) => return location
  | some (.folder false) => throw .permissionDenied
  | some (.file _ _) | some (.link _) | some .pipe | none => throw .notDirectory

theorem openFolder_ok {volume : Volume} {path : Path} {location : Location}
    (h : volume.openFolder path = .ok location) :
    volume.object? location = some (.folder true) ∧ volume.realLocation? path = some location := by
  simp only [openFolder] at h
  cases hlocate : volume.locate path with
  | error fault => rw [hlocate] at h; cases h
  | ok found =>
    rw [hlocate] at h
    have hobject : volume.object? found = some (.folder true) ∧ found = location := by
      simp only [bind, Except.bind] at h
      split at h <;> cases h
      exact ⟨‹_›, rfl⟩
    rw [← hobject.2]
    exact ⟨hobject.1, realLocation?_of_locate hlocate⟩

/-- The bytes of the file that a path stands for; a pipe has none. -/
def readBytes (volume : Volume) (path : Path) : Except FileFault (List UInt8) := do
  match volume.object? (← volume.locate path) with
  | some (.file content true) => return content
  | some (.file _ false) => throw .permissionDenied
  | some (.folder _) => throw .isDirectory
  | some .pipe => return []
  | some (.link _) | none => throw .notFound

end Volume

end SourceOutline
