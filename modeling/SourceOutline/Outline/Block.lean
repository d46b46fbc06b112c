import SourceOutline.Text.Line

set_option autoImplicit false

/-! # Blocks

The block of a definition runs from its line to just before the next code line that is indented no
deeper, or to the end of the text. Blank lines and comments never end a block. -/

namespace SourceOutline

variable {δ : Type} [Add δ] [LE δ] [DecidableLE δ]

/-- Whether a line ends a block whose first line is indented by `depth`. -/
def closesBlock (ruler : Ruler δ) (depth : δ) (line : Line) : Bool :=
  isCode line && decide (ruler.indentation line ≤ depth)

/-- How many of the lines after its first one belong to a block. -/
def blockLength (ruler : Ruler δ) (depth : δ) (after : List Line) : Nat :=
  (after.takeWhile fun line => !closesBlock ruler depth line).length

theorem blockLength_le (ruler : Ruler δ) (depth : δ) (after : List Line) :
    blockLength ruler depth after ≤ after.length :=
  (List.takeWhile_sublist _).length_le

/-- The lines after index `start`. From a negative index the reading begins that far before the end
    of the text and goes on from its first line; an index further back than the text is long has no
    lines after it. -/
def linesAfter? (lines : List Line) (start : Int) : Option (List Line) :=
  match start + 1 with
  | .ofNat next => some (lines.drop next)
  | .negSucc back =>
    if back + 1 ≤ lines.length then some (lines.drop (lines.length - (back + 1)) ++ lines) else none

/-- The index of the last line of the block that index `start` opens at `depth`. -/
def blockEnd? (ruler : Ruler δ) (lines : List Line) (start : Int) (depth : δ) : Option Int :=
  (linesAfter? lines start).map fun after => start + blockLength ruler depth after

end SourceOutline
