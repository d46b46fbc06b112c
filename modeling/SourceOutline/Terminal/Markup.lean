import SourceOutline.Literal.Value
import SourceOutline.Terminal.Style
import SourceOutline.Terminal.Wrap
import SourceOutline.Text.Line
import SourceOutline.Text.Quoted

set_option autoImplicit false

/-! # Markup

Text for a terminal may hold tags in brackets. A tag opens a style, or after a slash closes the
innermost open one of the same style; a slash alone closes the innermost one. A tag starts with a
small letter, a slash, `#` or `@`, it holds no bracket, and it is plain text if an odd number of
backslashes stands before it. Styles may stay open, but none may be closed that is not open.

An equals sign divides a tag into a name and parameters. Those of a style belong to its words. Those
of a handler, whose name starts with `@`, are a literal, which may follow the name of an action. -/

namespace SourceOutline.Terminal

/-! ## Tags -/

/-- A tag: its text between the brackets, and the position of the opening bracket. -/
structure Tag where
  position : Nat
  text : List Char
deriving Repr, DecidableEq

/-- What a tag names, without parameters. -/
def Tag.name (tag : Tag) : List Char :=
  tag.text.takeWhile (· != '=')

/-- The parameters of a tag, which may be empty. -/
def Tag.parameters? (tag : Tag) : Option (List Char) :=
  (tag.text.dropWhile (· != '=')).tail?

/-- Whether a tag may start with a character. -/
def startsTag (c : Char) : Bool :=
  ('a' ≤ c && c ≤ 'z') || c = '#' || c = '/' || c = '@'

/-- The text of the tag whose opening bracket stands before the given text. -/
def tagText? (after : List Char) : Option (List Char) :=
  let text := after.takeWhile fun c => c != '[' && c != ']'
  if text.head?.any startsTag && (after.drop text.length).head? == some ']' then some text else none

/-- A part of a text in markup. -/
inductive MarkupPart where
  | plain (text : List Char)
  | tag (tag : Tag)
deriving Repr, DecidableEq

/-- The parts of the text from `position` on. The next `skip` characters belong to a tag that has
    been met; `backslashes` tells how many backslashes stand before the text. -/
def partsFrom (position skip backslashes : Nat) : List Char → List MarkupPart
  | [] => [.plain (List.replicate backslashes '\\')]
  | c :: rest =>
    match skip with
    | skip + 1 => partsFrom (position + 1) skip 0 rest
    | 0 =>
      if c = '\\' then partsFrom (position + 1) 0 (backslashes + 1) rest
      else
        match if c = '[' then tagText? rest else none with
        | none =>
          .plain (List.replicate (if c = '[' then backslashes - 1 else backslashes) '\\' ++ [c])
            :: partsFrom (position + 1) 0 0 rest
        | some text =>
          .plain (List.replicate (backslashes / 2) '\\')
            :: (if backslashes % 2 = 1 then .plain ('[' :: text ++ [']'])
                else .tag { position, text })
            :: partsFrom (position + 1) (text.length + 1) 0 rest

/-- The parts of a text in markup. -/
def partsOf (text : String) : List MarkupPart :=
  partsFrom 0 0 0 text.toList

/-- What is shown of a part. Some control characters are dropped. -/
def MarkupPart.shown : MarkupPart → List Char
  | plain text => text.filter fun c => !isDroppedControl c
  | tag _ => []

/-- The text that is shown. -/
def shownText (parts : List MarkupPart) : List Char :=
  parts.flatMap (·.shown)

/-! ## Faults -/

/-- What is wrong with markup. -/
inductive MarkupFault where
  /-- A tag closes a style that is not open. -/
  | unmatched (tag : Tag)
  /-- A tag closes the innermost style, and none is open. -/
  | nothingOpen (position : Nat)
  | word (fault : WordFault)
  /-- The literal in parameters is none. -/
  | parameters (literal whole : List Char) (fault : Literal.Fault)
deriving Repr, DecidableEq

/-- The wording of a fault. -/
def MarkupFault.message : MarkupFault → String
  | unmatched tag =>
    "closing tag '[" ++ String.ofList tag.text ++ "]' at position " ++ toString tag.position
      ++ " doesn't match any open tag"
  | nothingOpen position =>
    "closing tag '[/]' at position " ++ toString position ++ " has nothing to close"
  | word fault => fault.message
  | parameters literal whole fault =>
    "error parsing " ++ (if fault.isOfForm then String.ofList (quoted literal) ++ " in " else "")
      ++ String.ofList (quoted whole) ++ "; " ++ fault.message

/-! ## Open styles -/

/-- A style that is open: its name, its parameters, and where it starts in the text that is
    shown. -/
structure OpenStyle where
  name : String
  parameters : Option (List Char)
  start : Nat
deriving Repr, DecidableEq

/-- Whether a style is the handler of an event. -/
def OpenStyle.isHandler (style : OpenStyle) : Bool :=
  style.name.toList.head? = some '@'

/-- The literal in the parameters of a handler. The name of an action may stand alone, or before
    brackets around all that follows. -/
def handlerLiteral (parameters : List Char) : List Char :=
  let parameters := trim parameters
  let rest := parameters.dropWhile fun c => isWord c || c = '.'
  if rest.isEmpty then ['(', ')']
  else if rest.head? = some '(' && rest.getLast? = some ')' && !rest.contains '\n' then rest
  else parameters

/-- What is wrong with the parameters of a style that is closed. -/
def OpenStyle.fault? (style : OpenStyle) : Option MarkupFault := do
  let parameters ← style.parameters
  guard (style.isHandler && !parameters.isEmpty)
  let literal := handlerLiteral parameters
  let fault ← Literal.faultOf? (unifyBreaks literal)
  return .parameters literal parameters fault

/-- A style over a stretch of the text that is shown: the words that name it, and where it starts
    and ends. -/
structure Span where
  words : List Char
  start : Nat
  stop : Nat
deriving Repr, DecidableEq

/-- The stretch over which a style is open. The words of a handler name no style. -/
def OpenStyle.span (style : OpenStyle) (stop : Nat) : Span :=
  let words :=
    match style.parameters with
    | some parameters => style.name.toList ++ ' ' :: parameters
    | none => style.name.toList
  { words, start := style.start, stop }

/-- What is kept while markup is read: the length of the text that is shown, the open styles from
    the inside, and the stretches of those that have been closed. -/
structure MarkupState where
  length : Nat := 0
  opened : List OpenStyle := []
  spans : List Span := []
deriving Repr, DecidableEq

/-- Close an open style. -/
def MarkupState.close (state : MarkupState) (style : OpenStyle) : Except MarkupFault MarkupState :=
  match style.fault? with
  | some fault => .error fault
  | none => .ok {
      state with
      opened := state.opened.erase style
      spans := style.span state.length :: state.spans }

/-- Go over a tag. -/
def MarkupState.tag (state : MarkupState) (tag : Tag) : Except MarkupFault MarkupState :=
  match tag.name with
  | '/' :: name =>
    if (trim name).isEmpty then
      match state.opened with
      | [] => .error (.nothingOpen tag.position)
      | style :: _ => state.close style
    else
      match styleName name with
      | .error fault => .error (.word fault)
      | .ok name =>
        match state.opened.find? (·.name == name) with
        | none => .error (.unmatched tag)
        | some style => state.close style
  | name =>
    match styleName name with
    | .error fault => .error (.word fault)
    | .ok name =>
      let style := { name, parameters := tag.parameters?, start := state.length }
      .ok { state with opened := style :: state.opened }

/-- Go over a part of markup. -/
def MarkupState.read (state : MarkupState) (part : MarkupPart) : Except MarkupFault MarkupState :=
  match part with
  | .plain _ => .ok { state with length := state.length + part.shown.length }
  | .tag tag => state.tag tag

/-! ## Showing -/

/-- The rows of a text in markup, as they are shown. -/
def shownRows (text : String) : List String :=
  (rowsOf (shownText (partsOf text))).map fun row => String.ofList row.shown

/-- Why the style over a stretch of a text cannot be shown. Words that name no style are left
    out. -/
def Span.fault? (text : List Char) (span : Span) : Option MarkupFault :=
  match Style.ofWords {} ((wordsOf span.words).map String.ofList) with
  | .error .unknown | .ok _ => none
  | .error fault => if isShown text span.start span.stop then some (.word fault) else none

/-- The first fault of a text in markup: one of its tags, or else one of the styles it shows, from
    the stretch that starts first. -/
def markupFault? (text : String) : Option MarkupFault :=
  let parts := partsOf text
  match parts.foldlM MarkupState.read {} with
  | .error fault => some fault
  | .ok state =>
    let stillOpen := state.opened.reverse.map (·.span state.length)
    let spans := stillOpen ++ state.spans
    (spans.mergeSort (·.start ≤ ·.start)).findSome? (Span.fault? (shownText parts))

end SourceOutline.Terminal
