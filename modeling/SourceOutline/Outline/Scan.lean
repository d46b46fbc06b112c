import SourceOutline.Graph.Node
import SourceOutline.Outline.Block
import SourceOutline.Outline.Definition
import SourceOutline.Outline.Scope
import SourceOutline.Slice

set_option autoImplicit false

/-! # The outline of a text

Scanning a text gives a node for every definition line, in order. Its range is the block that the
line opens, its parent the innermost enclosing definition or else the file, and its snippet the
first lines of the block. Enclosure is read off indentation alone: a line inside a multi-line
string counts like any other, and a definition that dedents below an earlier one has left it. -/

namespace SourceOutline

/-- What the nodes of one scan have in common. -/
structure ScanContext (δ : Type) where
  ruler : Ruler δ
  /-- How many lines of a block a snippet shows. -/
  snippetLines : Int
  sourcePath : String
  fileId : String

/-- The first lines of the block from `start` to `stop`. -/
def snippetOf (lines : List Line) (snippetLines start stop : Int) : String :=
  String.ofList (joinLines (slice lines start (min (stop + 1) (start + snippetLines))))

variable {δ : Type}

/-- The node of a definition on line `index`, whose block has `length` further lines. -/
def Definition.toNode (definition : Definition) (context : ScanContext δ) (lines : List Line)
    (index length : Nat) (parentId : String) : Node :=
  let stop : Int := index + length
  { id := definitionId definition.kind.label context.sourcePath index definition.name
    label := definition.name
    kind := definition.kind.label
    sourcePath := context.sourcePath
    startLine := index
    endLine := some stop
    parentId := some parentId
    snippet := some (snippetOf lines context.snippetLines index stop) }

/-- The nodes of the definitions among the lines from `index` on, with the scopes open there. -/
def outlineFrom [Add δ] [LE δ] [DecidableLE δ] (context : ScanContext δ) (lines : List Line) :
    Nat → ScopeStack δ → List Line → List Node
  | _, _, [] => []
  | index, scopes, line :: after =>
    match Definition.ofLine? line with
    | none => outlineFrom context lines (index + 1) scopes after
    | some definition =>
      let depth := context.ruler.indentation line
      let enclosing := scopes.closeTo depth
      let node := definition.toNode context lines index (blockLength context.ruler depth after)
        enclosing.top.id
      node :: outlineFrom context lines (index + 1)
        (enclosing.push { depth, id := node.id, endLine := node.endLine }) after

/-- The nodes of the definitions in a text. -/
def outline [Add δ] [LE δ] [DecidableLE δ] (context : ScanContext δ) (source : String) :
    List Node :=
  let lines := splitLines source.toList
  outlineFrom context lines 0 (ScopeStack.ofFile context.ruler.outside context.fileId) lines

end SourceOutline
