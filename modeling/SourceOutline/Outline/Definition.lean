import SourceOutline.Text.Line
import SourceOutline.Text.Word

set_option autoImplicit false

/-! # Definition lines

A definition line, once trimmed, is a keyword, at least one blank, and a name, followed by anything
that does not continue the name. The name is made of word characters and does not start with a
decimal digit. Nothing else about the line is read. -/

namespace SourceOutline

/-- What a definition line defines. -/
inductive DefinitionKind where
  | ofClass
  | ofFunction
deriving Repr, DecidableEq

/-- The word for a kind of definition in node kinds and ids. -/
def DefinitionKind.label : DefinitionKind → String
  | ofClass => "class"
  | ofFunction => "function"

/-- A definition as its line announces it. -/
structure Definition where
  kind : DefinitionKind
  name : String
deriving Repr, DecidableEq

/-- The kind that a leading keyword stands for, and the text after the keyword. -/
def DefinitionKind.ofKeyword? : List Char → Option (DefinitionKind × List Char)
  | 'c' :: 'l' :: 'a' :: 's' :: 's' :: rest => some (ofClass, rest)
  | 'd' :: 'e' :: 'f' :: rest => some (ofFunction, rest)
  | _ => none

/-- The text after at least one blank. -/
def afterBlanks? : List Char → Option (List Char)
  | [] => none
  | c :: rest => if isBlank c then some (trimLeft rest) else none

/-- The longest name at the start of a text. -/
def leadingName? : List Char → Option (List Char)
  | [] => none
  | c :: rest => if isWord c && !isDecimal c then some (c :: rest.takeWhile isWord) else none

/-- The definition that a line opens. -/
def Definition.ofLine? (line : Line) : Option Definition := do
  let (kind, afterKeyword) ← DefinitionKind.ofKeyword? (trim line)
  let afterSpace ← afterBlanks? afterKeyword
  let name ← leadingName? afterSpace
  return { kind, name := String.ofList name }

end SourceOutline
