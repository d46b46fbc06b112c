import SourceOutline.Text.Hex
import SourceOutline.Toml.Pieces

set_option autoImplicit false

/-! # Quotations

A text in quotes stands on a line of its own kind of quote, once or three times on either side. It
is checked in four steps, each of which looks at the whole of it: that nothing follows its end, that
its escapes are known ones, that the code points in it are given by digits, and last the escapes
are replaced and the quotes taken off. -/

namespace SourceOutline.Toml

/-! ## The end -/

/-- Whether something follows the end of a quotation, given the pieces between its quotes and how
    many empty ones there have been. -/
def goesOn (isLong : Bool) (empty : Nat) (isClosed : Bool) : List (List Char) → Bool
  | [] => false
  | piece :: rest =>
    if piece.isEmpty then
      if isLong then goesOn true (empty + 1) isClosed rest else goesOn false empty true rest
    else if endsEscaped piece then goesOn isLong empty isClosed rest
    else if isClosed then true
    else if !isLong || 1 < empty then goesOn isLong empty true rest
    else goesOn isLong 0 false rest

/-- Whether something follows the end of a quotation, given its text after the first quote. -/
def hasMore (quote : Char) (text : List Char) : Bool :=
  match piecesBetween quote text with
  | [] :: [] :: rest => goesOn true 0 false rest
  | pieces => goesOn false 0 false pieces

/-! ## Escapes -/

/-- The character that follows a backslash in a short escape, with what it stands for. -/
def shortEscapes : List (Char × Char) :=
  [('0', '\x00'), ('b', '\x08'), ('f', '\x0c'), ('n', '\n'), ('r', '\r'), ('t', '\t'), ('"', '"')]

/-- Whether a character that follows a backslash announces a code point. -/
def announcesCodePoint (c : Char) : Bool :=
  c = 'u' || c = 'U'

/-- Whether all escapes are known ones, given the pieces after backslashes. A backslash after
    another makes any character a known one. -/
def escapesKnown (isPair : Bool) : List (List Char) → Bool
  | [] => true
  | [] :: rest => escapesKnown (!isPair) rest
  | (c :: _) :: rest =>
    (isPair || announcesCodePoint c || (shortEscapes.lookup c).isSome) && escapesKnown false rest

/-- Replace the escapes but those of code points. -/
def replaceEscapes : List Char → Except DocumentFault (List Char)
  | '\\' :: c :: rest =>
    if c = '\\' then do return '\\' :: (← replaceEscapes rest)
    else if announcesCodePoint c then do return '\\' :: c :: (← replaceEscapes rest)
    else
      match shortEscapes.lookup c with
      | some meaning => do return meaning :: (← replaceEscapes rest)
      | none => .error .malformed
  | c :: rest => do return c :: (← replaceEscapes rest)
  | [] => .ok []

/-! ## Code points -/

/-- The character whose code point is given by the first digits of a text. There may be fewer digits
    than asked for. A code point that starts with `d` must not be a surrogate. -/
def leadingCodePoint (digits : List Char) : Except DocumentFault Char :=
  match digits.mapM hexValue? with
  | none => .error .malformed
  | some [] | some [0xD] => .error .pastText
  | some (first :: second :: rest) =>
    let n := (first :: second :: rest).foldl (fun n digit => n * 16 + digit) 0
    if first = 0xD && 7 < second then .error .malformed
    else if 0x80000000 ≤ n then .error .largeCodePoint
    else if 0x110000 ≤ n then .error .malformed
    else .ok (if n.isValidChar then Char.ofNat n else '\uFFFD')
  | some [n] => .ok (Char.ofNat n)

/-- Replace code points in the pieces after their announcements. After a backslash there is no
    announcement. -/
def replaceCodePoints (announcement : List Char) (width : Nat) (isOff : Bool) :
    List (List Char) → Except DocumentFault (List Char)
  | [] => .ok []
  | piece :: rest =>
    if isOff then do
      return announcement ++ piece
        ++ (← replaceCodePoints announcement width (endsEscaped piece) rest)
    else do
      let c ← leadingCodePoint (piece.take width)
      return c :: piece.drop width ++ (← replaceCodePoints announcement width false rest)

/-- Replace the code points in a quotation that a letter announces. -/
def replaceAnnounced (letter : Char) (width : Nat) (text : List Char) :
    Except DocumentFault (List Char) :=
  match piecesBetweenPairs '\\' letter text with
  | [] => .ok []
  | first :: rest => do
    return first ++ (← replaceCodePoints ['\\', letter] width (endsEscaped first) rest)

/-! ## Texts -/

/-- The text between the quotes of a quotation. -/
def unquoted (quote : Char) (text : List Char) : List Char :=
  match text with
  | _ :: second :: third :: _ =>
    if second = quote && third = quote then inner (inner (inner text)) else inner text
  | _ => inner text

/-- The text that a quotation stands for. -/
def quotedText (quotation : List Char) : Except DocumentFault (List Char) := do
  let quote := quotation.head?.getD '"'
  if hasMore quote (quotation.drop 1) then throw .malformed
  if quote = '\'' then return unquoted quote quotation
  if !escapesKnown false ((piecesBetween '\\' quotation).drop 1) then throw .malformed
  let text ← replaceAnnounced 'u' 4 quotation
  let text ← replaceAnnounced 'U' 8 text
  return unquoted quote (← replaceEscapes text)

end SourceOutline.Toml
