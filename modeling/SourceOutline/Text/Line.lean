import SourceOutline.Text.Blank

set_option autoImplicit false

/-! # Lines

Text is cut into lines at a carriage return, a line feed, or the pair of both. A break ends the
line before it, so a final break opens no further line, and a line's index is one less than the
number an editor shows. The indentation of a line is measured by a `Ruler`, and only lines that
hold code (neither blank nor a comment) bear on the structure of a text. -/

namespace SourceOutline

/-- A line of text without its break. -/
abbrev Line := List Char

/-! ## Cutting and joining -/

/-- Put a character in front of the first line, which is made if there is none. -/
def consLine (c : Char) : List Line → List Line
  | [] => [[c]]
  | line :: rest => (c :: line) :: rest

/-- The lines of a text. -/
def splitLines : List Char → List Line
  | [] => []
  | '\r' :: '\n' :: rest => [] :: splitLines rest
  | '\r' :: rest => [] :: splitLines rest
  | '\n' :: rest => [] :: splitLines rest
  | c :: rest => consLine c (splitLines rest)

/-- Lines put together with a line feed between neighbours. -/
def joinLines (lines : List Line) : List Char :=
  List.intercalate ['\n'] lines

/-- Write every line break as a single line feed. -/
def unifyBreaks : List Char → List Char
  | [] => []
  | '\r' :: '\n' :: rest => '\n' :: unifyBreaks rest
  | '\r' :: rest => '\n' :: unifyBreaks rest
  | c :: rest => c :: unifyBreaks rest

/-! ## Indentation -/

/-- How lines are measured. Depths may be of any kind that has sums. -/
structure Ruler (δ : Type) where
  /-- A depth to the left of every line. -/
  outside : δ
  /-- The depth of a line that starts with neither spaces nor tabs. -/
  start : δ
  /-- How far a space moves a line to the right. -/
  space : δ
  /-- How far a tab moves a line to the right. -/
  tab : δ
deriving Repr, DecidableEq

/-- The ruler on which a tab is as wide as `n` spaces. -/
def Ruler.ofTabWidth (n : Int) : Ruler Int where
  outside := -1
  start := 0
  space := 1
  tab := n

/-- The depth that spaces and tabs at the start of a text lead to from another depth. -/
def Ruler.advance {δ : Type} [Add δ] (ruler : Ruler δ) (depth : δ) : Line → δ
  | ' ' :: rest => ruler.advance (depth + ruler.space) rest
  | '\t' :: rest => ruler.advance (depth + ruler.tab) rest
  | _ => depth

/-- The depth of a line: how far the spaces and tabs that it starts with move it to the right. -/
def Ruler.indentation {δ : Type} [Add δ] (ruler : Ruler δ) (line : Line) : δ :=
  ruler.advance ruler.start line

/-! ## Code lines -/

/-- Whether a line holds code: it is not blank and does not start with `#`. -/
def isCode (line : Line) : Bool :=
  match trim line with
  | [] => false
  | c :: _ => c != '#'

end SourceOutline
