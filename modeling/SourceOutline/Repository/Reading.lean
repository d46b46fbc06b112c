import SourceOutline.Config.Settings
import SourceOutline.Outline.Scan
import SourceOutline.Text.Codec
import SourceOutline.Text.Line
import SourceOutline.Volume.Resolve

set_option autoImplicit false

/-! # Reading and scanning a file

A file is read whole, decoded with the encoding that the settings name, and every line break in it
becomes a line feed. Scanning a file gives the outline of its text. A file that cannot be read or
decoded is skipped with a reason; a setting that is no encoding is a fault of its own. -/

namespace SourceOutline

/-! ## Reading -/

/-- Why a text cannot be read. -/
inductive ReadFault where
  | file (fault : FileFault)
  | decoding (fault : DecodingFault)
  /-- The setting for the encoding names none. -/
  | encoding (fault : EncodingFault)
  /-- The setting for the encoding is no text. -/
  | encodingType (type : String)
deriving Repr, DecidableEq

/-- The wording of a fault. -/
def ReadFault.message : ReadFault → String
  | file fault => fault.message
  | decoding fault => fault.message
  | encoding fault => fault.message
  | encodingType type => "open() argument 'encoding' must be str or None, not " ++ type

/-- The wording of a fault that was met at a path. -/
def ReadFault.report (path : String) : ReadFault → String
  | file fault => fault.report path
  | fault => fault.message

/-- Whether a fault is one of the file that was to be read. -/
def ReadFault.isOfFile : ReadFault → Bool
  | file .nullCharacter => false
  | file _ => true
  | decoding (.undecodable _) => true
  | decoding (.refused _) => false
  | encoding _ => false
  | encodingType _ => false

/-- The name of the encoding that a setting asks for. -/
def encodingName (encoding : Value) : Except ReadFault String :=
  match encoding with
  | .text name =>
    if name.toList.contains '\x00' then .error (.encoding .nullCharacter) else .ok name
  | .null => .ok "locale"
  | value => .error (.encodingType value.typeName)

/-- The text of the file at a path under a decoder, with every line break as a line feed. Whether
    there is the decoder is only asked once the file is open. -/
def readWith (decoder : Except EncodingFault Decoder) (volume : Volume) (path : Path) :
    Except ReadFault (List Char) := do
  let bytes ← (volume.readBytes path).mapError .file
  let decode ← decoder.mapError .encoding
  let text ← (decode bytes).mapError .decoding
  return unifyBreaks text

/-- The text of the file at a path in the encoding that a setting asks for. -/
def readText (codecs : Codecs) (volume : Volume) (encoding : Value) (path : Path) :
    Except ReadFault (List Char) := do
  let name ← encodingName encoding
  readWith (codecs.decoder name) volume path

theorem readText_of_readBytes_eq {codecs : Codecs} {volume other : Volume} {encoding : Value}
    {path : Path} (h : volume.readBytes path = other.readBytes path) :
    readText codecs volume encoding path = readText codecs other encoding path := by
  simp only [readText, readWith, h]

/-- The reason for which a file is skipped on a fault, unless the fault is not one of the file. -/
def ReadFault.skipReason? (encoding : Value) : ReadFault → Option String
  | file .nullCharacter => none
  | file fault => some fault.message
  | decoding (.undecodable fault) =>
    some ("undecodable as " ++ encoding.shown ++ ": " ++ fault.reason.message)
  | _ => none

/-! ## Scanning -/

/-- Why a scan stops. -/
inductive ScanFault where
  | read (fault : ReadFault)
  | settings (fault : SettingsFault)
  /-- A snippet would have to end between two lines. -/
  | fractionalSnippet
deriving Repr, DecidableEq

/-- The wording of a fault. -/
def ScanFault.message : ScanFault → String
  | read fault => fault.message
  | settings fault => fault.message
  | fractionalSnippet =>
    "slice indices must be integers or None or have an __index__ method"

/-- How files are scanned. -/
structure ScanOptions where
  tabWidth : Quantity := .whole 4
  snippetLines : Quantity := .whole 10
  encoding : Value := .text "utf-8"

/-- The options that settings give. -/
def Settings.scanOptions (settings : Settings) : ScanOptions where
  tabWidth := settings.tabWidth
  snippetLines := settings.snippetLines
  encoding := settings.encoding

/-- The ruler on which a tab is as wide as a floating-point number of spaces. -/
def Ruler.ofReal (tabWidth : Binary64) : Ruler Binary64 where
  outside := .ofInt (-1)
  start := .ofInt 0
  space := .ofInt 1
  tab := tabWidth

/-- The outline of a text under options, with whole numbers of snippet lines, and depths of the
    kind that the tab width asks for. -/
def ScanOptions.outlineWith (options : ScanOptions) (snippetLines : Int)
    (sourcePath fileId source : String) : List Node :=
  let whole (n : Int) : List Node :=
    SourceOutline.outline { ruler := .ofTabWidth n, snippetLines, sourcePath, fileId } source
  match options.tabWidth with
  | .flag b => whole (if b then 1 else 0)
  | .whole n => whole n
  | .real x =>
    SourceOutline.outline { ruler := .ofReal x, snippetLines, sourcePath, fileId } source

/-- Whether a node ends no later than a floating-point number of lines after its start. -/
def Node.fitsWithin (limit : Binary64) (node : Node) : Bool :=
  match node.endLine with
  | some last => !(Binary64.ofInt node.startLine + limit).isBelow (last + 1)
  | none => true

/-- The outline of a text. A floating-point number of snippet lines serves only while no block is
    longer. -/
def ScanOptions.outline (options : ScanOptions) (sourcePath fileId source : String) :
    Except ScanFault (List Node) :=
  match options.snippetLines with
  | .flag b => .ok (options.outlineWith (if b then 1 else 0) sourcePath fileId source)
  | .whole n => .ok (options.outlineWith n sourcePath fileId source)
  | .real limit =>
    let nodes := options.outlineWith source.length sourcePath fileId source
    if nodes.all (Node.fitsWithin limit) then .ok nodes else .error .fractionalSnippet

/-- What scanning a file has given: nodes, or the reason for which it is skipped. -/
structure FileScan where
  nodes : List Node := []
  skipReason : Option String := none
deriving Repr, DecidableEq

/-- Scan the file at a path. -/
def scanFile (codecs : Codecs) (volume : Volume) (options : ScanOptions) (path : Path)
    (fileId : String) : Except ScanFault FileScan :=
  match readText codecs volume options.encoding path with
  | .ok text => do
    let nodes ← options.outline path.text fileId (String.ofList text)
    return { nodes }
  | .error fault =>
    match fault.skipReason? options.encoding with
    | some reason => .ok { skipReason := some reason }
    | none => .error (.read fault)

end SourceOutline
