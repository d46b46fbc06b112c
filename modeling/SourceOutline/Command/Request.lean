import SourceOutline.Command.Arguments
import SourceOutline.Number.Literal
import SourceOutline.Volume.Path

set_option autoImplicit false

/-! # Requests

A request is what a well-formed command line asks for. Numbers are checked for their form and range
here, and words for paths are read; whether a folder is there is only known when the request is
run. -/

namespace SourceOutline.Command

/-- What a command line asks for. -/
inductive Request where
  | version
  /-- Scan a folder and show its graph in a format, or write it to a file. -/
  | scan (folder : Path) (format : String) (output : Option Path) (exclude : List String)
      (snippetLines tabWidth : Option Int) (config : Option Path)
  /-- Show the lines of a node with some lines of context. -/
  | excerpt (folder : Path) (id : String) (context : Int) (config : Option Path)
  | showSettings (config : Option Path)
  /-- Add names to those that the configuration excludes. -/
  | addExcludes (names : List String) (config : Option Path)
  /-- Watch a folder, waiting some seconds after each change. -/
  | watch (folder : Path) (interval : Binary64) (config : Option Path)

/-- The paths that a request names. -/
def Request.paths : Request → List Path
  | version => []
  | scan folder _ output _ _ _ config => folder :: output.toList ++ config.toList
  | excerpt folder _ _ config => folder :: config.toList
  | showSettings config => config.toList
  | addExcludes _ config => config.toList
  | watch folder _ config => folder :: config.toList

/-! ## Options -/

/-- The option that names another configuration file. -/
def configOption : OptionSpec := { name := "config" }

/-- The options in front of a command. -/
def globalOptions : List OptionSpec :=
  [{ name := "version", letter := some 'V', takesValue := false },
   { name := "verbose", letter := some 'v', takesValue := false }]

/-- The options of a scan. -/
def scanOptions : List OptionSpec :=
  [{ name := "format", letter := some 'f' }, { name := "output", letter := some 'o' },
   { name := "exclude", letter := some 'e' }, { name := "snippet-lines" }, { name := "tab-width" },
   configOption]

/-- The options of an excerpt. -/
def excerptOptions : List OptionSpec :=
  [{ name := "context", letter := some 'c' }, configOption]

/-- The options of watching. -/
def watchOptions : List OptionSpec :=
  [{ name := "interval", letter := some 'i' }, configOption]

/-- The integer given for an option, if one is given; it has to be one and not too small. -/
def integerOption (arguments : Arguments) (name : String) (least : Int) :
    Option (Option Int) :=
  match arguments.value? name with
  | none => some none
  | some text => do
    let n ← integerOfText? text
    if n < least then none else return some n

/-- The path that a word stands for. It holds no null character. -/
def pathOfWord? (word : String) : Option Path :=
  if word.toList.contains '\x00' then none else some (Path.ofText word)

/-- The path given for an option, if one is given. -/
def pathOption (arguments : Arguments) (name : String) : Option (Option Path) :=
  match arguments.value? name with
  | none => some none
  | some word => (pathOfWord? word).map some

/-! ## Reading requests -/

/-- A request to scan. -/
def readScan (words : List String) : Option Request := do
  let arguments ← readArguments scanOptions true words
  let [folder] := arguments.positional | none
  let snippetLines ← integerOption arguments "snippet-lines" 0
  let tabWidth ← integerOption arguments "tab-width" 1
  return .scan (← pathOfWord? folder) ((arguments.value? "format").getD "tree")
    (← pathOption arguments "output") (arguments.values "exclude") snippetLines tabWidth
    (← pathOption arguments "config")

/-- A request for an excerpt. -/
def readExcerpt (words : List String) : Option Request := do
  let arguments ← readArguments excerptOptions true words
  let [folder, id] := arguments.positional | none
  let context ← integerOption arguments "context" 0
  return .excerpt (← pathOfWord? folder) id (context.getD 0) (← pathOption arguments "config")

/-- A request to watch. -/
def readWatch (words : List String) : Option Request := do
  let arguments ← readArguments watchOptions true words
  let folder ← match arguments.positional with
    | [] => some "."
    | [folder] => some folder
    | _ => none
  let interval ← realOfText? ((arguments.value? "interval").getD "2.0")
  if (Binary64.ofInt 0).atMost interval then
    return .watch (← pathOfWord? folder) interval (← pathOption arguments "config")
  else none

/-- A request about the configuration. -/
def readConfig (words : List String) : Option Request := do
  match (← readArguments [] false words).positional with
  | "show" :: rest =>
    let arguments ← readArguments [configOption] true rest
    if arguments.positional.isEmpty then return .showSettings (← pathOption arguments "config")
    else none
  | "set-exclude" :: rest =>
    let arguments ← readArguments [configOption] true rest
    if arguments.positional.isEmpty then none
    else return .addExcludes arguments.positional (← pathOption arguments "config")
  | _ => none

/-- What the words of a command line ask for, if they are well-formed. -/
def Request.ofWords? (words : List String) : Option Request := do
  let arguments ← readArguments globalOptions false words
  if arguments.has "version" then return .version
  match arguments.positional with
  | "scan" :: rest => readScan rest
  | "show" :: rest => readExcerpt rest
  | "config" :: rest => readConfig rest
  | "watch" :: rest => readWatch rest
  | _ => none

end SourceOutline.Command
