import SourceOutline.Toml.Form
import SourceOutline.Toml.Numeral
import SourceOutline.Toml.Place
import SourceOutline.Toml.Quotation
import SourceOutline.Toml.Reader

set_option autoImplicit false

/-! # Why a text is no document

A text that the reader refuses is gone through once more, to tell its fault. A fault of its form
comes first, wherever it stands, and then the fault of the first line that cannot be read. Lines
are read more freely here: a value is told from its first characters and divided at its commas, and
what follows where it seems complete is not looked at. A text that is read to its end has no fault
of its own, but breaks the rules of the format all the same. -/

namespace SourceOutline.Toml

/-! ## Keys -/

/-- The name of a bare part of a header. -/
def bareName? (text : List Char) : Option String :=
  if text.isEmpty || !text.all isBareKeyChar then none else some (String.ofList text)

/-- The name of a part of a header that starts with a quote, with the parts after it. Parts that a
    dot has cut apart are joined until they end in the quote. -/
def quotedName? (text : List Char) : List (List Char) → Option (String × List (List Char))
  | [] => if isWhole (trim text) then some (String.ofList (inner (trim text)), []) else none
  | next :: rest =>
    if isWhole (trim text) then some (String.ofList (inner (trim text)), next :: rest)
    else quotedName? (text ++ '.' :: next) rest
where
  /-- Whether a text ends in the character that it starts with. -/
  isWhole (text : List Char) : Bool :=
    text.length ≠ 1 && text.head? = text.getLast?

/-- The keys of a header from its parts between dots. -/
def headerKeys? (budget : Nat) (parts : List (List Char)) : Option (List String) :=
  match budget, parts with
  | budget + 1, part :: rest =>
    let part := trim part
    if startsQuoted part then do
      let (name, rest) ← quotedName? part rest
      return name :: (← headerKeys? budget rest)
    else do return (← bareName? part) :: (← headerKeys? budget rest)
  | _, _ => some []

/-- The levels of a key with dots. Quoted parts are taken as they are. -/
def keyLevels (key : List Char) : List (List Char) :=
  if key.any isQuote then levels false (quotePieces key) else piecesBetween '.' key
where
  /-- The levels of pieces between quotes. -/
  levels (isQuoted : Bool) : List (List Char) → List (List Char)
    | [] => []
    | piece :: rest =>
      (if isQuoted then [piece] else (piecesBetween '.' piece).map trim) ++ levels (!isQuoted) rest

/-- The path of a key. A key with dots is followed level by level, the empty ones left out. -/
def keyPath (key : List Char) : Except DocumentFault (List String) :=
  if key.contains '.' then
    match ((keyLevels key).reverse.dropWhile List.isEmpty) with
    | [] => .error .pastList
    | last :: before =>
      .ok (((before.reverse.filter (!·.isEmpty)) ++ [trim last]).map String.ofList)
  else
    match key.head? with
    | none => .error .pastText
    | some first =>
      .ok [String.ofList (if isQuote first && key.getLast? = some first then inner key else key)]

/-! ## Lines -/

/-- A text that is given to a key over several lines, as far as it has been read. -/
structure OpenText where
  key : String
  text : List Char
  /-- A backslash at the end of the line has been taken off. -/
  isContinued : Bool

/-- The text that goes on with the next line. -/
def OpenText.ofText (key : String) (text : List Char) (isContinued : Bool) : OpenText :=
  { key, text := if isContinued then text.dropLast else text ++ ['\n'], isContinued }

/-- The last item of an array of texts that is not closed, from the last quote after a comma on,
    given the pieces before it. -/
def openItem (item : List Char) : List (List Char) → Except DocumentFault (List Char)
  | [] => .ok item
  | before :: rest =>
    if item.isEmpty then .error .pastText
    else if startsQuoted item then .ok item
    else openItem (before ++ ',' :: item) rest

/-- The part of a value that is a text open at the end of its line, if there is one. -/
def openPart? (value : List Char) : Except DocumentFault (Option (List Char)) := do
  if value.length < 3 then return none
  let isOpenArray := value.head? = some '[' && value.getLast? ≠ some ']' && holdsTexts value
  let part ←
    match isOpenArray, (piecesBetween ',' (trim (value.drop 1))).reverse with
    | true, last :: before => openItem last before
    | _, _ => pure value
  if !startsQuoted part then return none
  match part with
  | first :: second :: rest =>
    if second ≠ first then return none
    match rest with
    | third :: _ =>
      if third ≠ first then return none
      let closes := part.length > 5 && (part.reverse.take 3).all (· = first)
      return if closes then none else some part
    | [] => throw .pastText
  | _ => throw .pastText

/-- Whether a text after an equals sign looks like a value: it starts with a blank, a quote or a
    bracket, or it is a truth value or a number, or there is nothing. -/
def looksLikeValue (text : List Char) : Bool :=
  let word := trim text
  text.head?.all (fun c => c = ' ' || c = '\t' || isQuote c || c = '[' || c = '\x7b')
    || word = "true".toList || word = "false".toList || isReal text

/-- The number of the first equals sign that something like a value follows, from a number on. -/
def valueMark (budget : Nat) (line : List Char) (number : Nat) : Except DocumentFault Nat :=
  let value := (cutAtEquals number line).2
  if looksLikeValue value then .ok number
  else
    match budget with
    | 0 => .error .malformed
    | budget + 1 =>
      if value.contains '=' then valueMark budget line (number + 1) else .error .malformed

/-- The key of a line and the text of its value. In what follows the first equals sign that counts,
    underscores after a digit do not matter. -/
def keyAndValue (line : List Char) : Except DocumentFault (List Char × List Char) := do
  let first := marksToFirst (List.count '=') false (quotePieces line)
  let value := (cutAtEquals first line).2
  let isNumber := value.head?.any Char.isDigit && isReal (value.filter (· != '_'))
  let number ← if isNumber then pure first else valueMark line.length line first
  let (key, value) := cutAtEquals number line
  return (trim key, trim value)

mutual

/-- Read a value. A numeral that follows an equals sign has to be tidy. -/
def examineValue (budget : Nat) (isAssigned : Bool) (text : List Char) :
    Except DocumentFault Value :=
  match budget, text with
  | budget + 1, c :: rest =>
    let text := c :: rest
    if text = "true".toList then .ok (.bool true)
    else if text = "false".toList then .ok (.bool false)
    else if isQuote c then (quotedText text).map fun text => .text (String.ofList text)
    else if c = '[' then do
      return .list (← examineItems budget none (← arrayParts (trim text)))
    else if c = '\x7b' then do
      examineFields budget (.table [] true) (← tableParts text)
    else
      match readMoment? text with
      | some (moment, []) => .ok (.moment moment)
      | _ =>
        if isAssigned && !isTidy text then .error .malformed
        else
          match numberOf? text with
          | some value => .ok value
          | none => .error .malformed
  | _, _ => .error .malformed

/-- Read the parts of an array, which are of one type. -/
def examineItems (budget : Nat) (type? : Option String) (parts : List (List Char)) :
    Except DocumentFault (List Value) :=
  match budget, parts with
  | budget + 1, part :: rest => do
    let part := trim part
    if part.isEmpty then examineItems budget type? rest
    else
      let value ← examineValue budget false part
      if type?.any (· ≠ value.typeName) then throw .malformed
      return value :: (← examineItems budget (some value.typeName) rest)
  | _, _ => .ok []

/-- Read the parts of an inline table after its first fields. A text that is open at the end of its
    part ends the table. -/
def examineFields (budget : Nat) (table : Value) (parts : List (List Char)) :
    Except DocumentFault Value :=
  match budget, parts with
  | budget + 1, part :: rest => do
    let (table, open?) ← examineLine budget table part
    if open?.isSome then return table
    examineFields budget table rest
  | _, _ => .ok table

/-- Read a key with its value and set it in a table. A text that is open at the end of the line is
    given instead. -/
def examineLine (budget : Nat) (table : Value) (line : List Char) :
    Except DocumentFault (Value × Option OpenText) :=
  match budget with
  | 0 => .error .malformed
  | budget + 1 => do
    let (key, text) ← keyAndValue line
    let path ← keyPath key
    if let some fault := dottedFault? path table then throw fault
    match ← openPart? text with
    | none =>
      let value ← examineValue budget true text
      return (← setNew (some value) path table, none)
    | some part =>
      let table ← setNew none path table
      let key := path.getLast?.getD ""
      if key = "" then throw .noValue
      return (table, some (OpenText.ofText key text (endsEscaped part)))

end

/-! ## Documents -/

/-- What has been read of a document: its values, the place of the section that is read, the keys of
    tables that headers have passed through, and a text that is open. -/
structure Inspection where
  root : Value := .table []
  place : Place := []
  passed : List String := []
  open? : Option OpenText := none

namespace Inspection

/-- The budget for the values of a line. -/
def budgetFor (line : List Char) : Nat :=
  4 * line.length + 4

/-- Whether a line closes an open text, which is given with the line appended. An array is closed
    by a bracket, and a text by three of its quotes. -/
def closes (text line : List Char) : Except DocumentFault Bool :=
  if text.head? = some '[' then
    match line.getLast? with
    | some last => .ok (last = ']')
    | none => .error .pastText
  else .ok (line.length > 2 && (line.reverse.take 3).all (some · = text.head?))

/-- Take a line that goes on with an open text. -/
def takeOpen (inspection : Inspection) (opened : OpenText) (line : List Char) :
    Except DocumentFault Inspection := do
  let text := opened.text ++ line
  if ← closes text line then
    let value ← examineValue (budgetFor text) false text
    match valueAt inspection.place inspection.root with
    | .table fields inline =>
      let table := Value.table (Value.setField fields opened.key value) inline
      return { inspection with
        root := replaceAt table inspection.place inspection.root, open? := none }
    | _ => throw .malformed
  else return { inspection with open? := OpenText.ofText opened.key text (endsEscaped text) }

/-- Take a header, given its text after the first bracket. -/
def takeHeader (inspection : Inspection) (line : List Char) : Except DocumentFault Inspection := do
  let isArray := line.head? = some '['
  let some text := headerText? isArray (if isArray then line.drop 1 else line)
    | throw .malformed
  let parts := piecesBetween '.' text
  let some keys := headerKeys? parts.length parts | throw .malformed
  let opening ← openHeader isArray inspection.passed keys inspection.root
  return { root := opening.value, place := opening.place, passed := opening.passed }

/-- Take a line of a section. -/
def takeLine (inspection : Inspection) (line : List Char) : Except DocumentFault Inspection := do
  let table := valueAt inspection.place inspection.root
  let (table, open?) ←
    if line.head? = some '\x7b' then
      if line.getLast? = some '\x7d' then
        pure (← examineFields (budgetFor line) table (← tableParts line), none)
      else throw .malformed
    else if line.contains '=' then examineLine (budgetFor line) table line
    else pure (table, none)
  return { inspection with
    root := replaceAt table inspection.place inspection.root, open? }

/-- Take a line of the blanked text. Blanks around it do not count, unless it lies inside of a text
    with its line breaks. -/
def take (inspection : Inspection) (line : List Char) : Except DocumentFault Inspection :=
  match inspection.open? with
  | some opened =>
    let line := if opened.isContinued || !opened.text.contains '\n' then trim line else line
    if line.isEmpty && opened.isContinued then .ok inspection
    else inspection.takeOpen opened line
  | none =>
    match trim line with
    | [] => .ok inspection
    | ['['] => .error .malformed
    | '[' :: rest => inspection.takeHeader rest
    | line => inspection.takeLine line

end Inspection

/-- The fault of a text that is no document. -/
def faultOf (text : List Char) : DocumentFault :=
  let inspection : Except DocumentFault Inspection := do
    (piecesBetween '\n' (← blanked text)).foldlM Inspection.take {}
  match inspection with
  | .error fault => fault
  | .ok _ => .malformed

end SourceOutline.Toml
