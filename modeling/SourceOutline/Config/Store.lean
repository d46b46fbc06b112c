import SourceOutline.Config.Settings
import SourceOutline.Repository.Reading
import SourceOutline.Toml.Library
import SourceOutline.Volume.Edit

set_option autoImplicit false

/-! # Configuration files

A configuration file is a TOML document in UTF-8 of which one table holds the scan settings. A file
that is not there counts as empty. Saving merges values into that table and keeps everything else;
the file is emptied before the TOML library makes its new text, so a value that cannot be written
costs the old content. -/

namespace SourceOutline

/-- The table of the scan settings. -/
def scanTable : String := "scan"

/-! ## Loading -/

/-- Why a configuration cannot be used. -/
inductive ConfigFault where
  | invalidToml (path : String)
  /-- The scan settings are no table. -/
  | noTable
  | invalidSettings (fault : SettingsFault)
deriving Repr, DecidableEq

/-- The wording of a fault. -/
def ConfigFault.message : ConfigFault → String
  | invalidToml path => "Invalid TOML in " ++ path
  | noTable => "[" ++ scanTable ++ "] must be a table"
  | invalidSettings fault => "Invalid scan settings: " ++ fault.message

/-- Why loading fails: the configuration cannot be used, its text has a fault other than bad form, a
    value in it is of a wrong kind, or the file cannot be read. -/
inductive LoadFault where
  | config (fault : ConfigFault)
  | document (fault : Toml.DocumentFault)
  | value (fault : SettingsFault)
  | read (fault : ReadFault)
deriving Repr, DecidableEq

/-- The wording of a fault. -/
def LoadFault.message : LoadFault → String
  | config fault => fault.message
  | document fault => fault.message
  | value fault => fault.message
  | read fault => fault.message

/-- The fields of the configuration file at a path. -/
def loadConfig (toml : Toml.Library) (volume : Volume) (path : Path) :
    Except LoadFault (List (String × Value)) := do
  if ← (volume.exists? path).mapError (.read ∘ .file) then
    let text ← (readWith (.ok utf8Decoder) volume path).mapError .read
    match toml.load text with
    | .ok fields => return fields
    | .error .malformed => throw (.config (.invalidToml path.text))
    | .error fault => throw (.document fault)
  else return []

/-- The fields of the table of scan settings, none if there is no such table. -/
def loadScanTable (toml : Toml.Library) (volume : Volume) (path : Path) :
    Except LoadFault (List (String × Value)) := do
  match (← loadConfig toml volume path).lookup scanTable with
  | none => return []
  | some (.table fields _) => return fields
  | some _ => throw (.config .noTable)

/-- The settings that a configuration file, further names to exclude, and overrides make. -/
def loadSettings (toml : Toml.Library) (volume : Volume) (path : Path) (extraExclude : Value)
    (overrides : List (String × Value)) : Except LoadFault Settings := do
  (checkOverrides overrides).mapError .value
  let table ← loadScanTable toml volume path
  let fields ← (mergeFields table extraExclude overrides).mapError .value
  (Settings.ofFields fields).mapError (.config ∘ .invalidSettings)

/-! ## Saving -/

/-- Why saving fails. -/
inductive SaveFault where
  | load (fault : LoadFault)
  | pairs (fault : PairsFault)
  | file (fault : FileFault)
  | write (fault : Toml.WriteFault)
deriving Repr, DecidableEq

/-- The wording of a fault. -/
def SaveFault.message : SaveFault → String
  | load fault => fault.message
  | pairs fault => fault.message
  | file fault => fault.message
  | write fault => fault.message

/-- A configuration that is to be saved: its fields, and the pairs of its table of scan settings. -/
structure MergedConfig where
  fields : List (String × Value)
  pairs : Pairs

/-- The fields of a configuration with values merged into its table of scan settings. -/
def mergeIntoScanTable (fields values : List (String × Value)) :
    Except PairsFault MergedConfig := do
  let old ← Pairs.ofValue ((fields.lookup scanTable).getD (.table []))
  let pairs := values.foldl (fun pairs (key, value) => pairs.set (.text key) value) old
  return { fields := Value.setField fields scanTable (.table pairs.fields), pairs }

/-- The text of a configuration that is to be saved. -/
def MergedConfig.write (toml : Toml.Library) (merged : MergedConfig) :
    Except SaveFault (List Char) :=
  (toml.dump merged.fields scanTable merged.pairs).mapError .write

/-- Write a merged configuration to a file, which is emptied before its text is made. -/
def MergedConfig.save (toml : Toml.Library) (merged : MergedConfig) (volume : Volume)
    (path : Path) : Volume × Except SaveFault Unit :=
  match volume.writeBytes path [] with
  | .error fault => (volume, .error (.file fault))
  | .ok emptied =>
    match merged.write toml with
    | .error fault => (emptied, .error fault)
    | .ok text =>
      match emptied.writeBytes path (encodeUtf8 text) with
      | .ok written => (written, .ok ())
      | .error fault => (emptied, .error (.file fault))

/-- Save values into the scan settings of the configuration file at a path, after the folders above
    it have been made. -/
def saveScanTable (toml : Toml.Library) (volume : Volume) (path : Path)
    (values : List (String × Value)) : Volume × Except SaveFault Unit :=
  let merged : Except SaveFault MergedConfig := do
    let fields ← (loadConfig toml volume path).mapError .load
    (mergeIntoScanTable fields values).mapError .pairs
  match merged with
  | .error fault => (volume, .error fault)
  | .ok merged =>
    match volume.makeFolders path.parent with
    | (made, some fault) => (made, .error (.file fault))
    | (made, none) => merged.save toml made path

end SourceOutline
