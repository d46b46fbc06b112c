import SourceOutline.Volume.Resolve

set_option autoImplicit false

/-! # Changing volumes

Objects are put at locations and removed together with everything below them. On top of that stand
the operations that take paths: writing a file, and making a folder with the folders above it. -/

namespace SourceOutline

namespace Volume

theorem map_fst_replace (entries : List (Location × Object)) (location : Location)
    (object : Object) :
    (entries.map fun entry => if entry.1 = location then (entry.1, object) else entry).map (·.1)
      = entries.map (·.1) := by
  rw [List.map_map]
  apply List.map_congr_left
  intro entry _
  simp only [Function.comp_apply]
  split <;> rfl

/-- Whether one of some entries stands at a location. -/
def entryStandsAt (location : Location) (entries : List (Location × Object)) : Bool :=
  entries.any fun entry => decide (entry.1 = location)

theorem nodup_append_entry {entries : List (Location × Object)} {location : Location}
    (object : Object) (hdistinct : (entries.map (·.1)).Nodup)
    (hnew : ¬ entryStandsAt location entries = true) :
    ((entries ++ [(location, object)]).map (·.1)).Nodup := by
  rw [List.map_append, List.nodup_append]
  refine ⟨hdistinct, by simp, ?_⟩
  intro a ha b hb
  simp only [List.map_cons, List.map_nil, List.mem_singleton] at hb
  subst hb
  rintro rfl
  obtain ⟨entry, hentry, hlocation⟩ := List.mem_map.1 ha
  exact hnew (List.any_eq_true.2 ⟨entry, hentry, decide_eq_true hlocation⟩)

theorem plain_map_replace {entries : List (Location × Object)} (location : Location)
    (object : Object) (hplain : ∀ entry ∈ entries, ∀ name ∈ entry.1, name.hasNull = false) :
    ∀ entry ∈ entries.map fun entry => if entry.1 = location then (entry.1, object) else entry,
      ∀ name ∈ entry.1, name.hasNull = false := by
  intro replaced hreplaced name hname
  obtain ⟨entry, hentry, rfl⟩ := List.mem_map.1 hreplaced
  refine hplain entry hentry name ?_
  split at hname <;> exact hname

theorem plain_append_entry {entries : List (Location × Object)} {location : Location}
    (object : Object) (hplain : ∀ entry ∈ entries, ∀ name ∈ entry.1, name.hasNull = false)
    (hnew : ∀ name ∈ location, name.hasNull = false) :
    ∀ entry ∈ entries ++ [(location, object)], ∀ name ∈ entry.1, name.hasNull = false := by
  intro entry hentry name hname
  rcases List.mem_append.1 hentry with hold | hlast
  · exact hplain entry hold name hname
  · rw [List.mem_singleton.1 hlast] at hname
    exact hnew name hname

/-- Put an object at a location, in place of what stands there or after all other entries. Nothing
    is put under a name that holds a null character. -/
def put (volume : Volume) (location : Location) (object : Object) : Volume :=
  if hplain : ∀ name ∈ location, name.hasNull = false then
    if h : entryStandsAt location volume.entries = true then
      { volume with
        entries := volume.entries.map fun entry =>
          if entry.1 = location then (entry.1, object) else entry
        distinct := map_fst_replace volume.entries location object ▸ volume.distinct
        plain := plain_map_replace location object volume.plain }
    else
      { volume with
        entries := volume.entries ++ [(location, object)]
        distinct := nodup_append_entry object volume.distinct h
        plain := plain_append_entry object volume.plain hplain }
  else volume

/-- Remove what stands at a location and below it. -/
def remove (volume : Volume) (location : Location) : Volume :=
  { volume with
    entries := volume.entries.filter fun entry => !location.isSuffixOf entry.1
    distinct := volume.distinct.sublist (List.filter_sublist.map _)
    plain := fun entry hentry => volume.plain entry (List.mem_filter.1 hentry).1 }

/-- Write a file, which is made if nothing stands at its path yet. -/
def writeBytes (volume : Volume) (path : Path) (content : List UInt8) :
    Except FileFault Volume := do
  match ← volume.resolve .written path with
  | .vacant folder name => return volume.put (name :: folder) (.file content true)
  | .present location =>
    match volume.object? location with
    | some (.folder _) => throw .isDirectory
    | some .pipe => return volume
    | _ => return volume.put location (.file content true)

/-- Put an object at a path where nothing stands yet. Links above it are followed. -/
def place (volume : Volume) (path : Path) (object : Object) : Except FileFault Volume := do
  match ← volume.resolve .kept path with
  | .vacant folder name => return volume.put (name :: folder) object
  | .present _ => throw .alreadyExists

/-- Put a link at a path where nothing stands yet. The path that it stands for is neither empty nor
    too long, and holds no null character. -/
def placeLink (volume : Volume) (path : Path) (target : String) : Except FileFault Volume :=
  if target.toList.contains '\x00' then .error .nullCharacter
  else if target = "" then .error .notFound
  else if 4096 ≤ target.utf8ByteSize then .error .nameTooLong
  else volume.place path (.link target)

/-- Make a folder where nothing stands yet. -/
def makeFolder (volume : Volume) (path : Path) : Except FileFault Volume :=
  volume.place path (.folder true)

/-- Why a path has no folder after the making of one has failed, unless one is there already. -/
def folderFault? (volume : Volume) (path : Path) (fault : FileFault) : Option FileFault :=
  match volume.isFolder? path with
  | .ok true => none
  | .ok false => some fault
  | .error fault => some fault

/-- Make a folder or leave the one that is there, unless it cannot be made. -/
def ensureFolder (volume : Volume) (path : Path) : Volume × Option FileFault :=
  match volume.makeFolder path with
  | .ok next => (next, none)
  | .error fault => (volume, volume.folderFault? path fault)

/-- Make a folder after the folders above it; the steps that lead there are given last first. -/
def makeFoldersFrom (volume : Volume) (start : PathStart) :
    List Step → Volume × Option FileFault
  | [] => volume.ensureFolder ⟨start, []⟩
  | step :: above =>
    let path : Path := ⟨start, (step :: above).reverse⟩
    match volume.makeFolder path with
    | .ok next => (next, none)
    | .error .notFound =>
      match volume.makeFoldersFrom start above with
      | (next, none) => next.ensureFolder path
      | (next, some fault) => (next, some fault)
    | .error fault => (volume, volume.folderFault? path fault)

/-- Make a folder and the folders above it, or leave those that are there. What is made before a
    failure stays. -/
def makeFolders (volume : Volume) (path : Path) : Volume × Option FileFault :=
  volume.makeFoldersFrom path.start path.steps.reverse

/-- Make a folder unless one is there already. A path that cannot be resolved has none. -/
def provideFolder (volume : Volume) (path : Path) : Volume × Option FileFault :=
  match volume.makeFolder path, volume.locate path with
  | .ok next, _ => (next, none)
  | .error fault, .ok location => (volume, if volume.hasFolder location then none else some fault)
  | .error fault, .error _ => (volume, some fault)

/-- Make a folder after those above it that are missing; the steps that lead there are given last
    first. It does not matter if something else stands where one of those should be: then the folder
    itself cannot be made. -/
def provideFoldersFrom (volume : Volume) (start : PathStart) :
    List Step → Volume × Option FileFault
  | [] => volume.provideFolder ⟨start, []⟩
  | step :: above =>
    let path : Path := ⟨start, (step :: above).reverse⟩
    if volume.locate ⟨start, above.reverse⟩ matches .ok _ then volume.provideFolder path
    else
      match volume.provideFoldersFrom start above with
      | (next, none) | (next, some .alreadyExists) => next.provideFolder path
      | (next, some fault) => (next, some fault)

/-- Make a folder and the folders above it that are missing. What is made before a failure stays. -/
def provideFolders (volume : Volume) (path : Path) : Volume × Option FileFault :=
  volume.provideFoldersFrom path.start path.steps.reverse

/-- Remove what stands at a path; a link is removed and not what it stands for. -/
def removePath (volume : Volume) (path : Path) : Except FileFault Volume := do
  match ← volume.resolve .kept path with
  | .present location => return volume.remove location
  | .vacant _ _ => throw .notFound

end Volume

end SourceOutline
