import SourceOutline.Command.Request
import SourceOutline.Config.Store
import SourceOutline.Graph.Dot
import SourceOutline.Graph.Json
import SourceOutline.Graph.Tree
import SourceOutline.Repository.Excerpt
import SourceOutline.Repository.Watch
import SourceOutline.Terminal.Escape
import SourceOutline.Terminal.Markup

set_option autoImplicit false

/-! # Running commands

Running a command line on a volume gives the volume afterwards, and either an exit code with what
was printed or a fault that the command does not handle. Misuse exits with code two, and so does a
configuration that cannot be used; an excerpt that cannot be shown exits with code one. Only output
of a success is printed, and all of it but drawn trees without escape sequences. Messages with
styles are written in markup, which may be faulty. A command relies on codecs and on a TOML library
that come with the system it runs on. -/

namespace SourceOutline.Command

/-- What a command uses of the system that it runs on. -/
structure System where
  codecs : Codecs
  toml : Toml.Library

/-! ## Outcomes -/

/-- The name and version of the program. -/
def versionText : String := "repograph v0.1.0"

/-- How a command ends: its exit code, what it prints, and the rows of messages beside that. -/
structure Completion where
  exitCode : Nat := 0
  output : String := ""
  notes : List String := []
deriving Repr, DecidableEq

/-- The end of a command that was misused. -/
def misuse : Completion := { exitCode := 2 }

/-- The end of a command that has nothing to show. -/
def nothingToShow : Completion := { exitCode := 1 }

/-- A fault that a command does not handle. -/
inductive Fault where
  | load (fault : LoadFault)
  | save (fault : SaveFault)
  | walk (fault : WalkFault)
  | read (fault : ReadFault)
  | file (fault : FileFault)
  | tree (fault : OrphanFault)
  /-- A name at an index is no text, so it cannot be printed in a row of names. -/
  | nameType (index : Nat) (type : String)
  | markup (fault : Terminal.MarkupFault)
  /-- An integer has too many digits to be shown. -/
  | longInteger
deriving Repr, DecidableEq

/-- The wording of a fault. -/
def Fault.message : Fault → String
  | load fault => fault.message
  | save fault => fault.message
  | walk fault => fault.message
  | read fault => fault.message
  | file fault => fault.message
  | tree fault => fault.message
  | nameType index type =>
    "sequence item " ++ toString index ++ ": expected str instance, " ++ type ++ " found"
  | markup fault => fault.message
  | longInteger => longIntegerMessage

/-- The volume after a command, and how it ended. -/
abbrev Outcome := Volume × Except Fault Completion

/-! ## Parts of commands -/

/-- Go on with settings. A configuration that cannot be used counts as misuse. -/
def withSettings (volume : Volume) (settings : Except LoadFault Settings)
    (next : Settings → Outcome) : Outcome :=
  match settings with
  | .ok settings => next settings
  | .error (.config _) => (volume, .ok misuse)
  | .error fault => (volume, .error (.load fault))

/-- The real path of a folder. It has to be there and to be no file. -/
def folderOf? (volume : Volume) (path : Path) : Option Path :=
  match volume.locate path with
  | .error _ => none
  | .ok location =>
    match volume.object? location with
    | some (.file _ _) | none => none
    | some _ => some location.path

/-- End with a completion after messages in markup have been shown. -/
def afterMessages (messages : List String) (completion : Completion) : Except Fault Completion :=
  match messages.findSome? Terminal.markupFault? with
  | some fault => .error (.markup fault)
  | none =>
    .ok { completion with notes := completion.notes ++ messages.flatMap Terminal.shownRows }

/-- The note about entries that were skipped, if there are any. -/
def skippedNotes (count : Nat) : List String :=
  if count = 0 then []
  else ["Skipped " ++ toString count ++ " unreadable "
    ++ (if count = 1 then "entry" else "entries")]

/-- A line as it is printed. -/
def printedLine (text : String) : String :=
  Terminal.plain text ++ "\n"

/-- How a graph is shown. -/
inductive Format where
  | tree
  | json
  | dot
deriving Repr, DecidableEq

/-- The format that a word names, whatever its case. -/
def Format.ofText? (word : String) : Option Format :=
  match lowercase word with
  | "tree" => some tree
  | "json" => some json
  | "dot" => some dot
  | _ => none

/-- The text of a graph in a format, as it is written to a file. -/
def Format.render (snapshot : Snapshot) : Format → Except OrphanFault String
  | tree => snapshot.renderTree
  | json => .ok (snapshot.renderJson exportIndent)
  | dot => .ok snapshot.renderDot

/-- What is printed for a text in a format: a tree already ends in a line break. -/
def Format.printed (text : String) : Format → String
  | tree => text
  | json | dot => printedLine text

/-! ## Commands -/

/-- Show the graph of a walk, or write it to a file and tell so. -/
def showGraph (volume : Volume) (format : Format) (output : Option Path) (result : WalkResult) :
    Outcome :=
  let notes := skippedNotes result.skipped.length
  match format.render result.snapshot with
  | .error fault => (volume, .error (.tree fault))
  | .ok text =>
    match output with
    | none => (volume, .ok { output := format.printed text, notes })
    | some path =>
      match volume.writeBytes path (encodeUtf8 text.toList) with
      | .error fault => (volume, .error (.file fault))
      | .ok written =>
        (written, .ok {
          output := printedLine ("Wrote " ++ toString result.snapshot.nodes.length
            ++ " nodes and " ++ toString result.snapshot.edges.length ++ " edges to " ++ path.text)
          notes })

/-- Scan a folder and show its graph. -/
def runScan (codecs : Codecs) (volume : Volume) (folder : Path) (format : Format)
    (output : Option Path) (settings : Settings) : Outcome :=
  match walk codecs volume settings folder with
  | .error fault => (volume, .error (.walk fault))
  | .ok result => showGraph volume format output result

/-- The message that there is nothing to show, and why. -/
def failureMessage (reason : String) : String :=
  "[red]✗[/red] " ++ reason

/-- Show the place and the lines of a node. -/
def runExcerpt (codecs : Codecs) (volume : Volume) (folder : Path) (id : String) (context : Int)
    (settings : Settings) : Outcome :=
  match walk codecs volume settings folder with
  | .error fault => (volume, .error (.walk fault))
  | .ok result =>
    match result.snapshot.get? id with
    | none => (volume, afterMessages [failureMessage (nodeNotFoundMessage id)] nothingToShow)
    | some node =>
      match SourceOutline.readExcerpt codecs volume settings.encoding node context with
      | .error fault =>
        let message :=
          failureMessage ("Could not read " ++ node.sourcePath ++ ": "
            ++ fault.report (Path.ofText node.sourcePath).text)
        (volume, if fault.isOfFile then afterMessages [message] nothingToShow
          else .error (.read fault))
      | .ok excerpt =>
        (volume, .ok {
          output := printedLine (excerpt.sourcePath ++ ":" ++ toString (excerpt.firstLine + 1)
            ++ "-" ++ toString (excerpt.lastLine + 1)) ++ excerpt.numbered ++ "\n" })

/-- Names in a row with commas between them; the index of the first one is given. -/
def nameTexts (index : Nat) : List Value → Except Fault (List String)
  | [] => .ok []
  | .text s :: rest => (nameTexts (index + 1) rest).map (s :: ·)
  | value :: _ => .error (.nameType index value.typeName)

/-- The lines that show settings. -/
def settingsText (settings : Settings) : Except Fault String := do
  let exclude ← nameTexts 0 settings.exclude
  let extensions ← nameTexts 0 (← settings.extensions.items.mapError (.load ∘ .value))
  let values := [settings.snippetLines.toValue, settings.tabWidth.toValue, settings.encoding,
    settings.followLinks]
  if !values.all Value.hasLiteral then throw .longInteger
  return String.join [
    printedLine ("exclude:        " ++ ", ".intercalate exclude),
    printedLine ("extensions:     " ++ ", ".intercalate extensions),
    printedLine ("snippet_lines:  " ++ settings.snippetLines.toValue.shown),
    printedLine ("tab_width:      " ++ settings.tabWidth.toValue.shown),
    printedLine ("encoding:       " ++ settings.encoding.shown),
    printedLine ("follow_symlinks: " ++ settings.followLinks.shown)]

/-- The names that a configuration excludes, with more names after those that are new. -/
def extendedExcludes (toml : Toml.Library) (volume : Volume) (config : Path)
    (names : List String) : Except LoadFault (List Value) := do
  let table ← loadScanTable toml volume config
  let current ← ((table.lookup "exclude").getD (.list [])).items.mapError .value
  return appendNew current (names.map .text)

/-- Add names to those that a configuration excludes. -/
def runAddExcludes (toml : Toml.Library) (volume : Volume) (config : Path)
    (names : List String) : Outcome :=
  match extendedExcludes toml volume config names with
  | .error (.config _) => (volume, .ok misuse)
  | .error fault => (volume, .error (.load fault))
  | .ok excludes =>
    match saveScanTable toml volume config [("exclude", .list excludes)] with
    | (next, .error fault) => (next, .error (.save fault))
    | (next, .ok ()) =>
      (next, .ok {
        output := printedLine ("Saved exclude list (" ++ toString excludes.length
          ++ " entries) to " ++ config.text) })

/-- The messages that a watcher begins with. -/
def greeting (folder : Path) (nodeCount : Nat) (interval : Binary64) : List String :=
  ["\n[bold green]👀 Watching[/bold green] [cyan]" ++ folder.text ++ "[/cyan]",
   "[dim]  Initial scan: " ++ toString nodeCount ++ " nodes",
   "  Debounce:     " ++ interval.render ++ "s",
   "  Press Ctrl+C to stop[/dim]\n"]

/-- Begin to watch a folder. The first scan is made, and then the greeting fails: its last message
    closes a style that another one has opened. -/
def runWatch (codecs : Codecs) (volume : Volume) (folder : Path) (interval : Binary64)
    (settings : Settings) : Outcome :=
  match walk codecs volume settings folder with
  | .error fault => (volume, .error (.walk fault))
  | .ok result =>
    (volume, afterMessages (greeting folder result.snapshot.nodes.length interval) {})

/-- The overrides that numbers on a command line make. -/
def numberOverrides (snippetLines tabWidth : Option Int) : List (String × Value) :=
  (snippetLines.map fun n => ("snippet_lines", Value.int n)).toList
    ++ (tabWidth.map fun n => ("tab_width", Value.int n)).toList

/-- Run a request, with the configuration file that is used unless it names another. -/
def Request.run (system : System) (volume : Volume) (standard : Path) : Request → Outcome
  | version => (volume, .ok { output := versionText ++ "\n" })
  | scan folder format output exclude snippetLines tabWidth config =>
    match folderOf? volume folder, Format.ofText? format with
    | some folder, some format =>
      withSettings volume
        (loadSettings system.toml volume (config.getD standard) (.list (exclude.map .text))
          (numberOverrides snippetLines tabWidth))
        (runScan system.codecs volume folder format output)
    | _, _ => (volume, .ok misuse)
  | excerpt folder id context config =>
    match folderOf? volume folder with
    | some folder =>
      withSettings volume (loadSettings system.toml volume (config.getD standard) (.list []) [])
        (runExcerpt system.codecs volume folder id context)
    | none => (volume, .ok misuse)
  | showSettings config =>
    let settings := loadSettings system.toml volume (config.getD standard) (.list []) []
    withSettings volume settings fun settings =>
      (volume, (settingsText settings).map fun text => { output := text })
  | addExcludes names config => runAddExcludes system.toml volume (config.getD standard) names
  | watch folder interval config =>
    match folderOf? volume folder with
    | some folder =>
      withSettings volume (loadSettings system.toml volume (config.getD standard) (.list []) [])
        (runWatch system.codecs volume folder interval)
    | none => (volume, .ok misuse)

/-- Run a command line. -/
def run (system : System) (volume : Volume) (standard : Path) (words : List String) : Outcome :=
  match Request.ofWords? words with
  | none => (volume, .ok misuse)
  | some request => request.run system volume standard

end SourceOutline.Command
