import SourceOutline.Text.Quoted
import SourceOutline.Volume.Path

set_option autoImplicit false

/-! # Volumes

A volume is the state of a file system: which object stands at which location. Every location
holds at most one object, no name holds a null character, the order of the entries is the order in
which folders list them, and the top is always a folder. -/

namespace SourceOutline

/-- A place in a volume: the names that lead there, innermost first. -/
abbrev Location := List Name

/-- What stands at a location. -/
inductive Object where
  /-- A folder; one that is not listable refuses to tell its entries. -/
  | folder (listable : Bool)
  /-- A file with its bytes; one that is not readable refuses to tell them. -/
  | file (content : List UInt8) (readable : Bool)
  /-- A symbolic link with the path that it stands for. -/
  | link (target : String)
  | pipe
deriving Repr, DecidableEq

/-- Whether a name holds a null character. -/
def Name.hasNull (name : Name) : Bool :=
  name.text.toList.contains '\x00'

/-- Objects at distinct locations, and the working folder. -/
structure Volume where
  entries : List (Location × Object) := []
  working : Location := []
  distinct : (entries.map (·.1)).Nodup := by simp
  plain : ∀ entry ∈ entries, ∀ name ∈ entry.1, name.hasNull = false := by simp

/-- Why an operation on a volume fails. -/
inductive FileFault where
  | notFound
  | notDirectory
  | isDirectory
  | alreadyExists
  | nameTooLong
  | tooManyLinks
  | permissionDenied
  /-- A written path holds a null character. -/
  | nullCharacter
deriving Repr, DecidableEq

/-- The wording of a failure. -/
def FileFault.message : FileFault → String
  | notFound => "No such file or directory"
  | notDirectory => "Not a directory"
  | isDirectory => "Is a directory"
  | alreadyExists => "File exists"
  | nameTooLong => "File name too long"
  | tooManyLinks => "Too many levels of symbolic links"
  | permissionDenied => "Permission denied"
  | nullCharacter => "embedded null byte"

/-- The number of a failure. A null character is met before the volume is asked, so it has none. -/
def FileFault.number? : FileFault → Option Nat
  | notFound => some 2
  | notDirectory => some 20
  | isDirectory => some 21
  | alreadyExists => some 17
  | nameTooLong => some 36
  | tooManyLinks => some 40
  | permissionDenied => some 13
  | nullCharacter => none

/-- The wording of a failure with its number and the path that was used. -/
def FileFault.report (path : String) (fault : FileFault) : String :=
  match fault.number? with
  | none => fault.message
  | some number =>
    "[Errno " ++ toString number ++ "] " ++ fault.message ++ ": "
      ++ String.ofList (quoted path.toList)

/-- The path from the top to a location. -/
def Location.path (location : Location) : Path where
  start := .top
  steps := location.reverse.map Step.down

namespace Volume

/-- The object at a location. -/
def object? (volume : Volume) : Location → Option Object
  | [] => some (.folder true)
  | location => volume.entries.lookup location

/-- The names of the entries of a folder, in the order in which it lists them. -/
def namesIn (volume : Volume) (location : Location) : List Name :=
  volume.entries.filterMap fun entry =>
    match entry.1 with
    | [] => none
    | name :: folder => if folder = location then some name else none

/-- The locations of all folders. -/
def folders (volume : Volume) : List Location :=
  [] :: (volume.entries.filter fun entry =>
    match entry.2 with
    | .folder _ => true
    | _ => false).map (·.1)

theorem mem_of_lookup_eq_some {α β : Type} [BEq α] [LawfulBEq α] {pairs : List (α × β)} {a : α}
    {b : β} (h : pairs.lookup a = some b) : (a, b) ∈ pairs := by
  induction pairs with
  | nil => simp at h
  | cons pair rest ih =>
    obtain ⟨a', b'⟩ := pair
    rw [List.lookup_cons] at h
    split at h
    · rename_i hab
      rw [eq_of_beq hab, ← Option.some.inj h]
      exact List.mem_cons_self
    · exact List.mem_cons_of_mem _ (ih h)

theorem mem_folders_of_object? {volume : Volume} {location : Location} {listable : Bool}
    (h : volume.object? location = some (.folder listable)) : location ∈ volume.folders := by
  cases location with
  | nil => simp [folders]
  | cons name folder =>
    have hlookup : volume.entries.lookup (name :: folder) = some (.folder listable) := h
    have hmem := mem_of_lookup_eq_some hlookup
    refine List.mem_cons_of_mem _ (List.mem_map.2 ⟨_, List.mem_filter.2 ⟨hmem, rfl⟩, rfl⟩)

end Volume

end SourceOutline
