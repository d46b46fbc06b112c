import SourceOutline.Literal.Numeral
import SourceOutline.Text.Identifier
import SourceOutline.Text.Lowercase

set_option autoImplicit false

/-! # Cutting a text into tokens

A text is read from left to right. Where no bracket is open the end of a line is a token, and so is
every change of the margin of a line that is not blank. A text may be cut off, which is met later
than a fault: only when a token is asked for that is not there. -/

namespace SourceOutline.Literal

/-- How the tokens of a text end. -/
inductive Ending where
  | finished
  | faulty (fault : TokenFault)
  /-- The text stops or cannot be read on; the innermost open bracket with its line. -/
  | cutOff (fault : TokenFault) (opened : Option (Char × Nat))
deriving Repr, DecidableEq

/-! ## Margins -/

/-- The blanks in front of a line: the columns they take if tabs go up to multiples of eight, and
    the columns if tabs take one. -/
structure Margin where
  columns : Nat := 0
  marks : Nat := 0
deriving Repr, DecidableEq

/-- The margin of a line, with the number of the line that the text after it is on, and that text.
    `fixed` is the margin where a line was continued first. -/
def takeMargin (fixed columns marks line : Nat) :
    List Char → Except TokenFault (Margin × Nat × List Char)
  | ' ' :: rest => takeMargin fixed (columns + 1) (marks + 1) line rest
  | '\t' :: rest => takeMargin fixed ((columns / 8 + 1) * 8) (marks + 1) line rest
  | '\x0c' :: rest => takeMargin fixed 0 0 line rest
  | ['\\', '\n'] => .error .earlyEnd
  | '\\' :: '\n' :: rest =>
    takeMargin (if fixed = 0 then columns else fixed) columns marks (line + 1) rest
  | '\\' :: _ => .error .continuation
  | text => .ok (if fixed = 0 then { columns, marks } else ⟨fixed, fixed⟩, line, text)

/-- How many margins may be inside one another. -/
def marginLimit : Nat := 100

/-- The margins after a line, and how the margin changes. The innermost margin comes first. -/
def changeMargin (margin : Margin) : List Margin → Option (List Margin × List TokenKind)
  | [] => none
  | inner :: outer =>
    if margin.columns = inner.columns then
      if margin.marks = inner.marks then some (inner :: outer, []) else none
    else if inner.columns < margin.columns then
      if margin.marks ≤ inner.marks || marginLimit ≤ outer.length + 1 then none
      else some (margin :: inner :: outer, [.indent])
    else (changeMargin margin outer).bind fun (margins, changes) =>
      if changes.contains .indent then none else some (margins, .dedent :: changes)

/-! ## Words -/

/-- What is kept while a text is read: the number of the line, the open brackets with their lines
    and the margins, both from the inside. -/
structure Place where
  line : Nat
  opened : List (Char × Nat) := []
  margins : List Margin := [{}]
deriving Repr, DecidableEq

/-- A token at a place. -/
def Place.token (place : Place) (kind : TokenKind) (text : List Char) : Token :=
  { kind, text := String.ofList text, line := place.line, depth := place.opened.length }

/-- The text after the quotes that end a text, with the number of the line. -/
def afterText (quote : Char) (inBlock : Bool) (line : Nat) :
    List Char → Except TokenFault (List Char × Nat)
  | [] => .error (.openText inBlock line)
  | '\\' :: c :: rest => afterText quote inBlock (if c = '\n' then line + 1 else line) rest
  | c :: rest =>
    if c = quote && !inBlock then .ok (rest, line)
    else if c = quote && rest.take 2 == [quote, quote] then .ok (rest.drop 2, line)
    else if c = '\n' then
      if inBlock then afterText quote inBlock (line + 1) rest else .error (.openText inBlock line)
    else afterText quote inBlock line rest

/-- The text after a text whose first quote stands before the given one. -/
def afterQuote (quote : Char) (line : Nat) (rest : List Char) :
    Except TokenFault (List Char × Nat) :=
  if rest.take 2 == [quote, quote] then afterText quote true line (rest.drop 2)
  else afterText quote false line rest

/-- Whether letters may stand before a quote. -/
def isTextMark (letters : List Char) : Bool :=
  ["", "b", "br", "f", "fr", "r", "rb", "rf", "u"].contains
    (String.ofList (letters.map Char.toLower))

/-- The first character of a run that may not stand there in a name. -/
def strayInName? : List Char → Option Char
  | [] => none
  | c :: rest =>
    if c = '_' || opensName c then rest.find? fun c => c != '_' && !continuesName c else some c

/-- The operators of more than one character, the longest ones first. -/
def longOperators : List String :=
  ["**=", "...", "//=", "<<=", ">>=", "!=", "%=", "&=", "**", "*=", "+=", "-=", "->", "//", "/=",
   ":=", "<<", "<=", "<>", "==", ">=", ">>", "@=", "^=", "|="]

/-- How many characters the operator takes that a text starts with. -/
def operatorLength (text : List Char) : Nat :=
  ((longOperators.find? fun operator => operator.toList.isPrefixOf text).map String.length).getD 1

/-- The bracket that closes another one. -/
def closingOf? : Char → Option Char
  | '(' => some ')'
  | '[' => some ']'
  | '\x7b' => some '\x7d'
  | _ => none

/-- How many brackets may be open. -/
def nestingLimit : Nat := 200

/-- The brackets that are open after a character. -/
def Place.bracket (place : Place) (c : Char) : Except TokenFault (List (Char × Nat)) :=
  if (closingOf? c).isSome then
    if nestingLimit ≤ place.opened.length then .error .deepNesting
    else .ok ((c, place.line) :: place.opened)
  else if c = ')' || c = ']' || c = '\x7d' then
    match place.opened with
    | [] => .error (.unopened c)
    | (opening, line) :: outer =>
      if closingOf? opening = some c then .ok outer
      else .error (.mismatched c opening (if line = place.line then none else some line))
  else if isPrintable c then .ok place.opened
  else .error (.character c)

/-- The token that a text starts with, with the place and the text after it. -/
def takeToken (place : Place) (text : List Char) : Except TokenFault (Token × Place × List Char) :=
  let word := text.takeWhile isNameChar
  match text.drop word.length with
  | quote :: rest =>
    if (quote = '\'' || quote = '"') && isTextMark word then do
      let (after, line) ← afterQuote quote place.line rest
      let token := place.token .text (text.take (text.length - after.length))
      return (token, { place with line }, after)
    else takeWord word (quote :: rest)
  | [] => takeWord word []
where
  /-- The token that starts with a run of characters of names, or with the text after it. -/
  takeWord (word rest : List Char) : Except TokenFault (Token × Place × List Char) :=
    if word.head?.any Char.isDigit || (word.isEmpty && rest.head? = some '.'
        && rest.tail.head?.any Char.isDigit) then do
      let after ← afterNumber text
      return (place.token .number (text.take (text.length - after.length)), place, after)
    else if word.isEmpty then
      match rest with
      | [] => .ok (place.token .finish [], place, [])
      | c :: _ =>
        let length := operatorLength text
        if 1 < length then .ok (place.token .operator (text.take length), place, text.drop length)
        else do
          let place := { place with opened := ← place.bracket c }
          return (place.token .operator [c], place, text.tail)
    else
      match strayInName? word with
      | some c => .error (.character c)
      | none => .ok (place.token .name word, place, rest)

/-! ## Texts -/

/-- Whether a token might go on after its last character. A text between quotes and an operator of
    three characters do not. -/
def Token.mayGoOn (token : Token) : Bool :=
  token.kind != .text && (token.kind != .operator || token.text.length < 3)

/-- The end of a text that is cut off at a place. -/
def Place.cutOff (place : Place) (fault : TokenFault) : List Token × Ending :=
  match fault, place.opened with
  | .earlyEnd, (opening, line) :: _ => ([], .cutOff (.unclosed opening) (some (opening, line)))
  | fault, opened => ([], .cutOff fault opened.head?)

/-- The tokens of a text that starts at a place, and how they end. `fresh` tells that a line starts
    there. -/
def tokensFrom : Nat → Bool → Place → List Char → List Token × Ending
  | 0, _, _, _ => ([], .finished)
  | fuel + 1, true, place, text =>
    match takeMargin 0 0 0 place.line text with
    | .error fault => place.cutOff fault
    | .ok (margin, line, rest) =>
      let place := { place with line }
      if rest.head? = some '#' || rest.head? = some '\n' then
        match rest.dropWhile (· != '\n') with
        | [] => tokensFrom fuel false place []
        | _ :: after => tokensFrom fuel true { place with line := line + 1 } after
      else
        match changeMargin margin place.margins with
        | none => place.cutOff .unevenMargin
        | some (margins, changes) =>
          let (tokens, ending) := tokensFrom fuel false { place with margins } rest
          (changes.map (place.token · []) ++ tokens, ending)
  | fuel + 1, false, place, text =>
    match text.dropWhile fun c => c = ' ' || c = '\t' || c = '\x0c' with
    | [] =>
      if place.opened.isEmpty then ([place.token .finish []], .finished)
      else place.cutOff .earlyEnd
    | '#' :: rest => tokensFrom fuel false place (rest.dropWhile (· != '\n'))
    | '\n' :: rest =>
      let next := { place with line := place.line + 1 }
      if place.opened.isEmpty then
        let (tokens, ending) := tokensFrom fuel true next rest
        (place.token .newline [] :: tokens, ending)
      else tokensFrom fuel false next rest
    | ['\\', '\n'] => place.cutOff .earlyEnd
    | '\\' :: '\n' :: rest => tokensFrom fuel false { place with line := place.line + 1 } rest
    | '\\' :: _ => place.cutOff .continuation
    | text =>
      match takeToken place text with
      | .error fault => ([], .faulty fault)
      | .ok (token, place, rest) =>
        let (tokens, ending) := tokensFrom fuel false place rest
        ({ token with isLast := rest.isEmpty && token.mayGoOn } :: tokens, ending)

/-- The tokens of a text that starts on a line, and how they end. A token takes a character at
    least, and a line may start before it. -/
def tokensOf (line : Nat) (text : List Char) : List Token × Ending :=
  tokensFrom (2 * text.length + 2) true { line } text

end SourceOutline.Literal
