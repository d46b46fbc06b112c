import SourceOutline.Text.Word
import SourceOutline.Toml.Pieces

set_option autoImplicit false

/-! # The form of a document

Before the lines of a document are read one by one, its form is checked as a whole: a line that is
no header starts with a key and an equals sign, and a string is closed on the line where it opens
unless its quotes are tripled. The check blanks comments and the line breaks inside brackets, so
that what is left has one statement on a line.

Whether a quote counts depends on the quotes and backslashes before it. What comes before the first
character are the last ones: the text is taken to be preceded by itself. -/

namespace SourceOutline.Toml

/-- Where in a key the text stands. -/
inductive KeyPlace where
  | outside
  | inside
  /-- A blank or a closing quote has ended a part of the key. -/
  | afterPart
deriving DecidableEq

/-- What kind of header the text stands in. -/
inductive HeaderPlace where
  | outside
  | table
  | array
deriving DecidableEq

/-- What is known of a text from its start to some character. -/
structure Form where
  /-- The text so far with its blanked characters, the last one first, and after it what comes
      before the text. -/
  before : List Char
  key : KeyPlace := .outside
  isDotted : Bool := false
  header : HeaderPlace := .outside
  /-- The quote of the string that is open. -/
  quote? : Option Char := none
  isLong : Bool := false
  isComment : Bool := false
  startsLine : Bool := true
  openBrackets : Int := 0

namespace Form

/-- Go past a character. -/
def past (form : Form) (c : Char) : Form :=
  { form with before := c :: form.before }

/-! ## Keys -/

/-- The part of a key that follows a dot or a blank starts with the next character, unless that is
    one of them too. -/
def startPart (form : Form) (next? : Option Char) : Except DocumentFault Form :=
  match next? with
  | none => .error .pastList
  | some next => .ok (if isBlank next || next = '.' then form else { form with key := .inside })

/-- End a key at an equals sign; no other character may stand here. -/
def endKey (form : Form) (c : Char) : Except DocumentFault Form :=
  if c = '=' then .ok { form with key := .outside, isDotted := false } else .error .malformed

/-- Take a character of a key, given the one after it. -/
def takeInKey (form : Form) (c : Char) (next? : Option Char) : Except DocumentFault Form :=
  if c = '\n' then .error .malformed
  else
    match form.quote?, form.key with
    | some quote, _ =>
      if c = quote && !isEscaped form.before then
        .ok { form with key := .afterPart, quote? := none }
      else .ok form
    | none, .inside =>
      if isBlank c then .ok { form with key := .afterPart }
      else if c = '.' then .ok { form with isDotted := true }
      else if isWord c || c = '-' then .ok form
      else if form.isDotted && form.before.head? == some '.' && (c = '"' || c = '\'') then
        .ok { form with quote? := some c }
      else form.endKey c
    | none, _ =>
      if isBlank c then if form.isDotted then form.startPart next? else .ok form
      else if c = '.' then { form with isDotted := true }.startPart next?
      else form.endKey c

/-! ## Values and headers -/

/-- Take a quote: the third of a kind in a row opens or closes a long string, and any other one a
    short string. -/
def takeQuote (form : Form) (c : Char) : Form :=
  let run := ((form.before.take 2).takeWhile (· = c)).length
  if c = '"' && run != 1 && isEscaped (form.before.drop run) then form
  else
    let opens := if run = 2 then !form.isLong else form.quote?.isNone
    { form with
      quote? := if opens then some c else none
      isLong := if run = 2 then !form.isLong else form.isLong }

/-- Take an opening bracket outside of strings. -/
def takeOpening (form : Form) (next? : Option Char) : Form :=
  if form.header ≠ .outside then form
  else if form.startsLine then
    { form with header := if next? = some '[' then .array else .table }
  else { form with openBrackets := form.openBrackets + 1 }

/-- Take a closing bracket outside of strings. -/
def takeClosing (form : Form) : Form :=
  match form.header with
  | .table => { form with header := .outside }
  | .array => if form.before.head? = some ']' then { form with header := .outside } else form
  | .outside => { form with openBrackets := form.openBrackets - 1 }

/-- Take a line break. The one after the quotes that open a long string belongs to them. -/
def takeBreak (form : Form) : Except DocumentFault Form :=
  if form.isLong then
    match form.before with
    | a :: b :: c :: rest =>
      if (a = '"' || a = '\'') && b = a then
        .ok { form with before := a :: a :: b :: (if c = a then ' ' else c) :: rest }
      else .ok (form.past '\n')
    | _ => .ok (form.past '\n')
  else if form.quote?.isSome then .error .malformed
  else if form.openBrackets ≠ 0 then .ok (form.past ' ')
  else .ok { form.past '\n' with startsLine := true }

/-- Note that a line has started with a character that is no blank. -/
def startLine (form : Form) (c : Char) : Except DocumentFault Form :=
  if form.startsLine && c != ' ' && c != '\t' then
    if form.header ≠ .outside then .ok { form with startsLine := false }
    else if c = '=' then .error .malformed
    else .ok { form with startsLine := false, key := .inside }
  else .ok form

/-- Whether a character starts a comment. -/
def startsComment (form : Form) (c : Char) : Bool :=
  c = '#' && form.quote?.isNone && form.header = .outside

/-- Take a character that belongs to no key, given the one after it. -/
def takeOutsideKey (form : Form) (c : Char) (next? : Option Char) : Except DocumentFault Form :=
  if c = '\n' then { form with isComment := false }.takeBreak
  else if form.isComment || form.startsComment c then
    .ok ({ form with isComment := true }.past ' ')
  else do
    let form :=
      if (c = '"' || c = '\'') && form.quote?.all (· = c) then form.takeQuote c
      else if form.quote?.isSome then form
      else if c = '[' then form.takeOpening next?
      else if c = ']' then form.takeClosing
      else form
    let started ← form.startLine c
    return started.past c

/-! ## Texts -/

/-- Take the characters of a text. -/
def takeAll (form : Form) : List Char → Except DocumentFault Form
  | [] => .ok form
  | c :: rest =>
    if form.key = .outside then do (← form.takeOutsideKey c rest.head?).takeAll rest
    else do ((← form.takeInKey c rest.head?).past c).takeAll rest

end Form

/-- The text of a document with its comments and the line breaks inside brackets blanked. -/
def blanked (text : List Char) : Except DocumentFault (List Char) := do
  let form ← ({ before := text.reverse } : Form).takeAll text
  if form.key ≠ .outside || form.quote?.isSome then throw .malformed
  return (form.before.take text.length).reverse

end SourceOutline.Toml
