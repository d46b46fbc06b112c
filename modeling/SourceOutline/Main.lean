import SourceOutline.Command.Run
import SourceOutline.Text.Encoding
import SourceOutline.Toml.Package

set_option autoImplicit false

/-! # The program

The part of the file system that a command line is about is read into a volume, the command is run
on that volume, and what it changed there is written back. -/

namespace SourceOutline.Command

/-! ## Reading the file system -/

/-- The part of the file system that has been read, and the folders whose entries are known. -/
structure Survey where
  volume : Volume := {}
  listed : List Location := []

/-- Reading more and more of the file system. -/
abbrev Surveying := StateT Survey IO

/-- How many steps of a path are taken, and how deep folders are entered. -/
def stepLimit : Nat := 10000

/-- What the symbolic link at a path stands for in the end. A broken one stands for a path that
    leads nowhere, one in a circle for itself. -/
def linkTarget (path : String) : IO String := do
  try
    return (← IO.FS.realPath path).toString
  catch error =>
    match error with
    | .noFileOrDirectory _ _ _ => return "/dev/null/missing"
    | _ => return path

/-- The file at a path. -/
def fileOnDisk (path : String) : IO Object := do
  try
    return .file (← IO.FS.readBinFile path).toList true
  catch _ => return .file [] false

/-- The object at a location of the file system, if there is one. -/
def objectOnDisk? (location : Location) : IO (Option Object) := do
  let path := location.path.text
  try
    match (← ((← IO.currentDir) / path).symlinkMetadata).type with
    | .dir => return some (.folder true)
    | .file => return some (← fileOnDisk path)
    | .symlink => return some (.link (← linkTarget path))
    | .other => return some .pipe
  catch _ => return none

/-- Read what stands at a location, unless it is known. -/
def readObject (location : Location) : Surveying (Option Object) := do
  match (← get).volume.object? location with
  | some object => return some object
  | none =>
    match ← objectOnDisk? location with
    | none => return none
    | some object =>
      modify fun survey => { survey with volume := survey.volume.put location object }
      return some object

/-- Read what stands along the way that steps lead from a folder, and where that ends. Links are
    followed. -/
def readAlong : Nat → Location → List Step → Surveying (Option Location)
  | 0, _, _ => return none
  | _ + 1, location, [] => return some location
  | fuel + 1, location, .here :: rest => readAlong fuel location rest
  | fuel + 1, location, .up :: rest => readAlong fuel location.tail rest
  | fuel + 1, location, .down name :: rest => do
    match ← readObject (name :: location) with
    | some (.link target) => readAlong fuel [] (stepsOfText target ++ rest)
    | some _ => readAlong fuel (name :: location) rest
    | none => return none

/-- The names of the entries of a folder, unless it does not tell them. -/
def namesOnDisk? (location : Location) : IO (Option (List String)) := do
  try
    let entries ← ((← IO.currentDir) / location.path.text).readDir
    return some (entries.toList.map (·.fileName))
  catch _ => return none

/-- Read everything below a location, and below the folders that links there stand for. -/
def readBelow : Nat → Location → Surveying Unit
  | 0, _ => return
  | fuel + 1, location => do
    if (← get).listed.contains location then
      return
    modify fun survey => { survey with listed := location :: survey.listed }
    let some (.folder _) ← readObject location | return
    let some names ← namesOnDisk? location
      | modify fun survey =>
          { survey with volume := survey.volume.put location (.folder false) }
    for text in names do
      if let .down name := Step.ofText text then
        match ← readObject (name :: location) with
        | some (.folder _) => readBelow fuel (name :: location)
        | some (.link target) =>
          if let some there ← readAlong fuel [] (stepsOfText target) then
            readBelow fuel there
        | _ => pure ()

/-- The folder that a request looks into. -/
def Request.folder? : Request → Option Path
  | scan folder _ _ _ _ _ _ | excerpt folder _ _ _ | watch folder _ _ => some folder
  | version | showSettings _ | addExcludes _ _ => none

/-- Read the part of the file system that a request is about. -/
def Request.survey (standard : Path) (request : Request) : Surveying Unit := do
  let here := (← IO.currentDir).toString
  let some working ← readAlong stepLimit [] (stepsOfText here) | return
  modify fun survey => { survey with volume := { survey.volume with working } }
  for path in standard :: request.paths do
    let start := if path.isAbsolute then [] else working
    if let some location ← readAlong stepLimit start path.steps then
      if request.folder? = some path then
        readBelow stepLimit location

/-! ## Writing back -/

/-- Make the folders and write the files that are new or changed. -/
def writeChanges (before after : Volume) : IO Unit := do
  for (location, object) in after.entries do
    unless before.object? location = some object do
      match object with
      | .folder _ => IO.FS.createDirAll location.path.text
      | .file content _ => IO.FS.writeBinFile location.path.text content.toByteArray
      | .link _ | .pipe => pure ()

/-- The configuration file that is used unless a command line names another. -/
def standardConfig : IO Path := do
  let folder ← match ← IO.getEnv "REPOGRAPH_HOME" with
    | some folder => pure folder
    | none => pure ((← IO.getEnv "HOME").getD "" ++ "/.repograph")
  return Path.ofText (folder ++ "/config.toml")

/-- The system that the program runs on. -/
def system : System where
  codecs := Encoding.codecs
  toml := Toml.package

/-- Run a command line on the file system; the result is the exit code. -/
def runOnDisk (words : List String) : IO UInt32 := do
  let standard ← standardConfig
  let before ← match Request.ofWords? words with
    | some request => pure (← (request.survey standard).run {}).2.volume
    | none => pure {}
  let (after, result) := run system before standard words
  writeChanges before after
  match result with
  | .ok completion =>
    IO.print completion.output
    for note in completion.notes do
      IO.eprintln note
    return UInt32.ofNat completion.exitCode
  | .error fault =>
    IO.eprintln fault.message
    return 1

end SourceOutline.Command

/-- The program. -/
def main (words : List String) : IO UInt32 :=
  SourceOutline.Command.runOnDisk words
