import SourceOutline.Graph.Lookup
import SourceOutline.Repository.Reading
import SourceOutline.Slice

set_option autoImplicit false

/-! # Excerpts

An excerpt shows the lines of a node, widened by some lines of context on both sides and cut off at
the ends of the file. A node without a range of lines shows its whole file. -/

namespace SourceOutline

/-- Consecutive lines of a file and the index of the first one. -/
structure Excerpt where
  sourcePath : String
  firstLine : Int
  lines : List Line
deriving Repr, DecidableEq

namespace Excerpt

/-- The index of the last line; with no lines it is the one before the first. -/
def lastLine (excerpt : Excerpt) : Int :=
  excerpt.firstLine + excerpt.lines.length - 1

/-- The lines as one text. -/
def text (excerpt : Excerpt) : String :=
  String.ofList (joinLines excerpt.lines)

/-- Put blanks in front of a text up to a width. -/
def padLeft (width : Nat) (text : List Char) : List Char :=
  List.replicate (width - text.length) ' ' ++ text

/-- Lines with their numbers in front, the first of which is given. -/
def numberLines (width : Nat) : Int → List Line → List Line
  | _, [] => []
  | number, line :: rest =>
    (padLeft width (toString number).toList ++ ' ' :: ' ' :: line)
      :: numberLines width (number + 1) rest

/-- The lines with their numbers, which count from one and are aligned on the right. -/
def numbered (excerpt : Excerpt) : String :=
  let width := (toString (excerpt.lastLine + 1)).length
  String.ofList (joinLines (numberLines width (excerpt.firstLine + 1) excerpt.lines))

end Excerpt

/-- The lines of a file that a node spans, widened by `context` lines. -/
def Node.excerptOf (node : Node) (context : Int) (lines : List Line) : Excerpt :=
  if lines.isEmpty then { sourcePath := node.sourcePath, firstLine := 0, lines := [] }
  else
    let lastIndex : Int := lines.length - 1
    let (start, stop) := match node.endLine with
      | some last => (node.startLine, last)
      | none => (0, lastIndex)
    let first := max (start - context) 0
    let last := min (stop + context) lastIndex
    { sourcePath := node.sourcePath, firstLine := first, lines := slice lines first (last + 1) }

/-- Read the excerpt of a node from its file. -/
def readExcerpt (codecs : Codecs) (volume : Volume) (encoding : Value) (node : Node)
    (context : Int) : Except ReadFault Excerpt := do
  let text ← readText codecs volume encoding (Path.ofText node.sourcePath)
  return node.excerptOf context (splitLines text)

/-- Why a snapshot gives no excerpt. -/
inductive ExcerptFault where
  | lookup (fault : LookupFault)
  | read (fault : ReadFault)
deriving Repr, DecidableEq

/-- The wording of a fault. -/
def ExcerptFault.message : ExcerptFault → String
  | lookup fault => fault.message
  | read fault => fault.message

/-- Read the excerpt of the node with the given id. -/
def Snapshot.readExcerpt (snapshot : Snapshot) (codecs : Codecs) (volume : Volume)
    (encoding id : Value) (context : Int) : Except ExcerptFault Excerpt := do
  let node ← (snapshot.lookup id).mapError .lookup
  (SourceOutline.readExcerpt codecs volume encoding node context).mapError .read

end SourceOutline
