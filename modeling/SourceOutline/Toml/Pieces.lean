import SourceOutline.Text.Blank
import SourceOutline.Text.Split
import SourceOutline.Toml.Fault

set_option autoImplicit false

/-! # Pieces of lines

A line whose fault is sought is divided at quotes, equals signs, brackets and commas, without a look
at what stands between them. Quotes are counted only as far as a mark inside of them has to be told
from one outside, and pieces that a comma has cut apart are joined again until they look
complete. -/

namespace SourceOutline.Toml

/-! ## Ends of texts -/

/-- The text between the first character and the last. -/
def inner (text : List Char) : List Char :=
  (text.drop 1).dropLast

/-- Whether a character is a quote. -/
def isQuote (c : Char) : Bool :=
  c = '"' || c = '\''

/-- Whether a text starts with a quote. -/
def startsQuoted (text : List Char) : Bool :=
  text.head?.any isQuote

/-- Whether an odd number of backslashes stands at the front. -/
def isEscaped (before : List Char) : Bool :=
  (before.takeWhile (· = '\\')).length % 2 = 1

/-- Whether a text ends in an odd number of backslashes. -/
def endsEscaped (text : List Char) : Bool :=
  isEscaped text.reverse

/-- Whether a text ends in the character that it starts with, which is not escaped. -/
def isBounded (text : List Char) : Bool :=
  match text, text.reverse with
  | first :: _, last :: before => last = first && !isEscaped before.dropLast
  | _, _ => true

/-! ## Pieces between quotes -/

/-- Join pieces that stand between double quotes to the last of the pieces between single quotes, as
    long as that one lies inside of single quotes. -/
def joinOpen (singles : List (List Char)) :
    List (List Char) → List (List Char) × List (List Char)
  | [] => (singles, [])
  | next :: rest =>
    if singles.length % 2 = 0 then
      let last := singles.getLast?.getD [] ++ '"' :: next
      joinOpen (singles.dropLast ++ piecesBetween '\'' last) rest
    else (singles, next :: rest)

/-- Pieces of which the first is divided at single quotes. -/
def divideFirst : List (List Char) → List (List Char)
  | [] => []
  | first :: rest => piecesBetween '\'' first ++ rest

/-- The pieces of a line between its quotes. Those at odd places stand inside of quotes. -/
def quotePieces (line : List Char) : List (List Char) :=
  match piecesBetween '"' line with
  | first :: next :: rest =>
    if first.contains '\'' then
      let (singles, left) := joinOpen (piecesBetween '\'' first) (next :: rest)
      singles ++ divideFirst left
    else divideFirst (first :: next :: rest)
  | pieces => divideFirst pieces

/-- How many marks there are up to the first one in a piece outside of quotes, given how often the
    mark occurs in a piece. -/
def marksToFirst (count : List Char → Nat) (isQuoted : Bool) : List (List Char) → Nat
  | [] => 1
  | piece :: rest =>
    if !isQuoted && count piece ≠ 0 then 1
    else count piece + marksToFirst count (!isQuoted) rest

/-! ## Marks -/

/-- The pieces of a text between the places where one character follows another. -/
def piecesBetweenPairs (first second : Char) : List Char → List (List Char)
  | a :: b :: rest =>
    if a = first && b = second then [] :: piecesBetweenPairs first second rest
    else consPiece a (piecesBetweenPairs first second (b :: rest))
  | text => [text]

/-- The text before the mark of a number and the text after it; without that many marks the last one
    is taken. -/
def cutAtEquals (number : Nat) (line : List Char) : List Char × List Char :=
  let pieces := piecesBetween '=' line
  let before := min number (pieces.length - 1)
  (List.intercalate ['='] (pieces.take before), List.intercalate ['='] (pieces.drop before))

/-- The text of a header between its brackets, given the text after the opening ones. Nothing but
    blanks may follow the closing ones. -/
def headerText? (isArray : Bool) (text : List Char) : Option (List Char) :=
  let divide := if isArray then piecesBetweenPairs ']' ']' else piecesBetween ']'
  let mark := if isArray then [']', ']'] else [']']
  let number := marksToFirst (fun piece => (divide piece).length - 1) false (quotePieces text)
  let pieces := divide text
  let after := List.intercalate mark (pieces.drop number)
  if pieces.length ≤ number || !(trim after).isEmpty then none
  else some (List.intercalate mark (pieces.take number))

/-! ## Arrays -/

/-- Whether an array holds texts, as far as its first item tells. -/
def holdsTexts (array : List Char) : Bool :=
  startsQuoted (trim (inner array))

/-- Whether a part of an array of texts is complete: it ends in the character that it starts with,
    which is not escaped, and if it starts with three of them it does not end in a single one. -/
def isComplete (part : List Char) : Bool :=
  isBounded part
    && !(part.length > 2 && (part.take 3).all (some · = part.head?)
      && ((part.reverse.drop 1).take 2).all (some · ≠ part.head?))

/-- Join a part with those after it until it is complete. -/
def completePart (part : List Char) :
    List (List Char) → Except DocumentFault (List Char × List (List Char))
  | [] => if isComplete (trim part) then .ok (part, []) else .error .pastList
  | next :: rest =>
    if isComplete (trim part) then .ok (part, next :: rest)
    else completePart (part ++ ',' :: next) rest

/-- The complete parts of an array of texts; the last part may be incomplete. -/
def completeParts (budget : Nat) (parts : List (List Char)) :
    Except DocumentFault (List (List Char)) :=
  match budget, parts with
  | budget + 1, part :: next :: rest => do
    let (part, rest) ← completePart part (next :: rest)
    return part :: (← completeParts budget rest)
  | _, parts => .ok parts

/-- The parts of a text at the commas that no brackets enclose. -/
def partsOutsideBrackets (depth : Int) : List Char → List (List Char)
  | [] => [[]]
  | c :: rest =>
    if c = ',' && depth = 0 then [] :: partsOutsideBrackets 0 rest
    else
      consPiece c (partsOutsideBrackets
        (if c = '[' then depth + 1 else if c = ']' then depth - 1 else depth) rest)

/-- The parts of an array in braces that are closed; what stands between them is left out. The part
    that is open is given, its last character first, with the number of its open braces. The last
    character of the array does not count. -/
def partsInBraces (depth : Nat) (isQuoted : Bool) (part? : Option (List Char)) :
    List Char → List (List Char)
  | [] | [_] => []
  | c :: rest =>
    match part? with
    | none =>
      if c = '\x7b' then partsInBraces depth isQuoted (some [c]) rest
      else partsInBraces depth isQuoted none rest
    | some part =>
      let isQuoted := if isQuote c then !isQuoted || isEscaped part else isQuoted
      if isQuoted then partsInBraces depth true (some (c :: part)) rest
      else if c = '\x7b' then partsInBraces (depth + 1) false (some (c :: part)) rest
      else if c ≠ '\x7d' then partsInBraces depth false (some (c :: part)) rest
      else if 1 < depth then partsInBraces (depth - 1) false (some (c :: part)) rest
      else
        (c :: part).reverse :: match rest with
          | [] => []
          | _ :: rest => partsInBraces depth false none rest

/-- The parts of an array. -/
def arrayParts (array : List Char) : Except DocumentFault (List (List Char)) :=
  let content := inner array
  let start := trim content
  if content.contains '[' && (trim (content.takeWhile (· != '['))).isEmpty then
    .ok (partsOutsideBrackets 0 content)
  else if start.head? = some '\x7b' then
    let depth := if content.head? = some '\x7b' then 1 else 0
    .ok (partsInBraces depth false (some (content.take 1)) (array.drop 2))
  else if startsQuoted start then
    let parts := piecesBetween ',' content
    completeParts parts.length parts
  else .ok (piecesBetween ',' content)

/-! ## Inline tables -/

/-- Whether the text of a field's value is complete as far as its first and last characters tell. -/
def endsAsItStarts (value : List Char) : Bool :=
  match value.head?, value.getLast? with
  | some first, some last =>
    (first = last && isQuote first) || first = '-' || ('0' ≤ first && first ≤ '9')
      || value = "true".toList || value = "false".toList
      || (first = '[' && last = ']') || (first = '\x7b' && last = '\x7d')
  | _, _ => false

/-- The fields of an inline table, from its parts between commas. -/
def fieldParts (budget : Nat) (parts : List (List Char)) :
    Except DocumentFault (List (List Char)) :=
  match budget, parts with
  | budget + 1, part :: rest =>
    if part.contains '=' then
      let value := trim ((part.dropWhile (· != '=')).drop 1)
      if value.isEmpty then .error .pastText
      else if endsAsItStarts value then do return part :: (← fieldParts budget rest)
      else
        match rest with
        | next :: rest => fieldParts budget ((part ++ ',' :: next) :: rest)
        | [] => .error .malformed
    else .error .malformed
  | _, _ => .ok []

/-- The fields of an inline table. -/
def tableParts (table : List Char) : Except DocumentFault (List (List Char)) :=
  let content := inner table
  if (trim content).isEmpty then .ok []
  else
    let parts := piecesBetween ',' content
    fieldParts parts.length parts

end SourceOutline.Toml
