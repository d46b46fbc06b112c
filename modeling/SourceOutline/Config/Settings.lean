import SourceOutline.Config.Value
import SourceOutline.Text.Line
import SourceOutline.Text.Lowercase
import SourceOutline.Text.Sorted
import SourceOutline.Text.Split
import SourceOutline.Volume.Path

set_option autoImplicit false

/-! # Scan settings

Settings decide which entries of a folder are visited, how indentation is measured, and how much of
a definition is kept. They are made from named values, which are checked for their type and range,
and come from three sources: the defaults, the table of a configuration file, and overrides. -/

namespace SourceOutline

/-! ## Quantities -/

/-- A number given for a setting. -/
inductive Quantity where
  | flag (b : Bool)
  | whole (n : Int)
  | real (x : Binary64)
deriving Repr, DecidableEq

namespace Quantity

/-- The quantity that a value gives, if it is a number or a truth value. -/
def ofValue? : Value → Option Quantity
  | .bool b => some (flag b)
  | .int n => some (whole n)
  | .float x => some (real x)
  | _ => none

/-- A quantity as a value. -/
def toValue : Quantity → Value
  | flag b => .bool b
  | whole n => .int n
  | real x => .float x

/-- Whether a quantity is below an integer; a truth value counts as zero or one. -/
def isBelow (bound : Int) : Quantity → Bool
  | flag b => decide ((if b then 1 else 0) < bound)
  | whole n => decide (n < bound)
  | real x => x.isBelow bound

/-- Whether a floating-point number is below a quantity. -/
def exceeds (x : Binary64) : Quantity → Bool
  | flag b => x.isBelow (if b then 1 else 0)
  | whole n => x.isBelow n
  | real y => x.isLess y

end Quantity

/-! ## Settings -/

/-- The names that are left out unless settings say otherwise. -/
def defaultExcludes : List String :=
  ["__pycache__", "node_modules", "site-packages", "venv", "env", ".venv", ".git", ".hg", ".svn",
   "__init__.py"]

/-- The suffixes of files that are visited unless settings say otherwise. -/
def defaultExtensions : List String :=
  [".py"]

/-- What a scan visits and how it reads. -/
structure Settings where
  exclude : List Value := defaultExcludes.map .text
  extensions : Value := .list (defaultExtensions.map .text)
  snippetLines : Quantity := .whole 10
  tabWidth : Quantity := .whole 4
  encoding : Value := .text "utf-8"
  followLinks : Value := .bool true
deriving DecidableEq

/-! ## Faults -/

/-- Why values do not make settings. The types are named as `Value.typeName` does. -/
inductive SettingsFault where
  | unknownField (name : String)
  /-- A value is given for a name that the maker of settings keeps for itself. -/
  | reservedName (maker name : String)
  /-- A value is given once more for a name that stands for another source. -/
  | repeatedSource (name : String)
  /-- A list was expected. -/
  | noItems (type : String)
  /-- Something that can hold a text was expected. -/
  | noHolder (type : String)
  /-- A text was expected. -/
  | notText (type : String)
  /-- A number was expected. -/
  | notNumber (type : String)
  /-- A name that is excluded was expected. -/
  | notPlain (type : String)
  | tooSmall (field : String) (least : Int)
deriving Repr, DecidableEq

/-- The wording of a fault. -/
def SettingsFault.message : SettingsFault → String
  | unknownField name =>
    "ScanSettings.__init__() got an unexpected keyword argument '" ++ name ++ "'"
  | reservedName maker name =>
    "ScanSettings." ++ maker ++ "() got multiple values for argument '" ++ name ++ "'"
  | repeatedSource name =>
    "repograph.config_manager.ScanSettings.from_config() got multiple values for keyword argument '"
      ++ name ++ "'"
  | noItems type => "'" ++ type ++ "' object is not iterable"
  | noHolder type => "argument of type '" ++ type ++ "' is not iterable"
  | notText type => "'" ++ type ++ "' object has no attribute 'strip'"
  | notNumber type => "'<' not supported between instances of '" ++ type ++ "' and 'int'"
  | notPlain type => "unhashable type: '" ++ type ++ "'"
  | tooSmall field least => field ++ " must be >= " ++ toString least

/-! ## Checking values -/

/-- The items of a value: those of a list, the characters of a text, the keys of a table. -/
def Value.items : Value → Except SettingsFault (List Value)
  | .list items _ => .ok items
  | .text s => .ok (s.toList.map fun c => .text (String.singleton c))
  | .table fields _ => .ok (fields.map fun field => .text field.1)
  | value => .error (.noItems value.typeName)

/-- Whether a value holds a text: as an item of a list, as a part of a text, as a key of a table. -/
def Value.holds (name : String) : Value → Except SettingsFault Bool
  | .list items _ => .ok (items.any (Value.isText name))
  | .text s => .ok (isPartOf name.toList s.toList)
  | .table fields _ => .ok (fields.any (·.1 == name))
  | value => .error (.noHolder value.typeName)

/-- The text that a value is. -/
def Value.asText : Value → Except SettingsFault String
  | .text s => .ok s
  | value => .error (.notText value.typeName)

/-- The quantity that a value gives for a field with a least value. -/
def Value.asQuantity (field : String) (least : Int) (value : Value) :
    Except SettingsFault Quantity :=
  match Quantity.ofValue? value with
  | none => .error (.notNumber value.typeName)
  | some quantity =>
    if quantity.isBelow least then .error (.tooSmall field least) else .ok quantity

/-- Excluded values have to be simple: neither lists nor tables. -/
def checkSimple : List Value → Except SettingsFault Unit
  | [] => .ok ()
  | .list items fixed :: _ => .error (.notPlain (Value.list items fixed).typeName)
  | .table fields inline :: _ => .error (.notPlain (Value.table fields inline).typeName)
  | _ :: rest => checkSimple rest

/-! ## Visiting -/

/-- Whether an entry of a folder is left out: its name starts with a dot or is excluded. -/
def Settings.isExcluded (settings : Settings) (name : String) : Bool :=
  name.toList.head? == some '.' || settings.exclude.any (Value.isText name)

/-- Whether a file is visited: the suffix of its name, in lower case, is one of the extensions. -/
def Settings.isSupported (settings : Settings) (name : String) : Except SettingsFault Bool :=
  settings.extensions.holds (lowercase (Path.ofText name).suffix)

/-! ## Making settings -/

/-- The names of the settings. -/
def settingNames : List String :=
  ["exclude", "extensions", "snippet_lines", "tab_width", "encoding", "follow_symlinks"]

/-- The last value given for a name. -/
def lastField? (fields : List (String × Value)) (name : String) : Option Value :=
  fields.reverse.lookup name

/-- What is wrong with the first named value that stands for no setting, if there is one. -/
def strayField? (fields : List (String × Value)) : Option SettingsFault :=
  fields.findSome? fun (name, _) =>
    if settingNames.contains name then none
    else if name = "self" then some (.reservedName "__init__" name)
    else some (.unknownField name)

/-- The settings that named values make; what is not named keeps its default. -/
def Settings.ofFields (fields : List (String × Value)) : Except SettingsFault Settings := do
  if let some fault := strayField? fields then
    throw fault
  let base : Settings := {}
  let given := lastField? fields
  let snippetLines ← match given "snippet_lines" with
    | some value => value.asQuantity "snippet_lines" 0
    | none => pure base.snippetLines
  let tabWidth ← match given "tab_width" with
    | some value => value.asQuantity "tab_width" 1
    | none => pure base.tabWidth
  let exclude ← match given "exclude" with
    | some value => value.items
    | none => pure base.exclude
  checkSimple exclude
  return {
    exclude, snippetLines, tabWidth,
    extensions := (given "extensions").getD base.extensions,
    encoding := (given "encoding").getD base.encoding,
    followLinks := (given "follow_symlinks").getD base.followLinks }

/-! ## Merging sources -/

/-- The spelling of an extension that settings use: trimmed, in lower case, with a dot in front. A
    blank one has none. -/
def extensionSpelling? (extension : String) : Option String :=
  match (lowercase (String.ofList (trim extension.toList))).toList with
  | [] => none
  | '.' :: rest => some (String.ofList ('.' :: rest))
  | letters => some (String.ofList ('.' :: letters))

/-- Extensions as settings use them: spelled alike, sorted, each once. -/
def normalizeExtensions (extensions : List String) : List String :=
  sortedDistinct (extensions.filterMap extensionSpelling?)

/-- The extensions that a value gives, as settings use them. -/
def Value.asExtensions (value : Value) : Except SettingsFault Value := do
  let texts ← (← value.items).mapM Value.asText
  return .list ((normalizeExtensions texts).map .text)

/-- Append the values that are not there yet. -/
def appendNew (known : List Value) : List Value → List Value
  | [] => known
  | value :: rest =>
    if known.any (·.same value) then appendNew known rest
    else appendNew (known ++ [value]) rest

/-- The fields that a table of a configuration file gives for the settings other than `exclude` and
    `extensions`. -/
def plainFields (table : List (String × Value)) : List (String × Value) :=
  ["snippet_lines", "tab_width", "encoding", "follow_symlinks"].filterMap fun name =>
    (table.lookup name).map fun value => (name, value)

/-- The names that stand for the sources of settings. -/
def sourceNames : List String :=
  ["path", "extra_exclude"]

/-- Overrides cannot use the names of other sources, nor the name under which the maker of settings
    goes itself. -/
def checkOverrides (overrides : List (String × Value)) : Except SettingsFault Unit :=
  match overrides.find? fun field => sourceNames.contains field.1 with
  | some (name, _) => .error (.repeatedSource name)
  | none =>
    if (overrides.lookup "cls").isSome then .error (.reservedName "from_config" "cls") else .ok ()

/-- The fields that overrides give; those without a value are left out. -/
def overrideFields : List (String × Value) → Except SettingsFault (List (String × Value))
  | [] => .ok []
  | (_, .null) :: rest => overrideFields rest
  | (name, value) :: rest => do
    let value ← if name = "extensions" then value.asExtensions else pure value
    return (name, value) :: (← overrideFields rest)

/-- The fields that a table, further names to exclude, and overrides give together. Names to exclude
    add to the default ones; any other setting is taken from the last source that has it. -/
def mergeFields (table : List (String × Value)) (extraExclude : Value)
    (overrides : List (String × Value)) : Except SettingsFault (List (String × Value)) := do
  let fromTable ← ((table.lookup "exclude").getD (.list [])).items
  let exclude := appendNew (defaultExcludes.map .text) (fromTable ++ (← extraExclude.items))
  let extensions ← match table.lookup "extensions" with
    | some value => do pure [("extensions", ← value.asExtensions)]
    | none => pure []
  let overriding ← overrideFields overrides
  return ("exclude", .list exclude) :: extensions ++ plainFields table ++ overriding

end SourceOutline
