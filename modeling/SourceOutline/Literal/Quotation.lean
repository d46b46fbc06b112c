import SourceOutline.Literal.Complaint
import SourceOutline.Literal.Phrase

set_option autoImplicit false

/-! # Texts between quotes

A text may be written in pieces that stand side by side. Letters before its quotes tell whether a
piece stands for bytes, whether its backslashes stand for themselves, and whether expressions are
put into it. Positions in a text count a character beyond ASCII as the escape sequence for it. -/

namespace SourceOutline.Literal

/-- A piece of a text: the letters before its quotes, what is between them, and the line on which it
    starts. -/
structure Piece where
  letters : List Char
  body : List Char
  line : Nat
deriving Repr, DecidableEq

/-- A piece as it is written on a line, without its quotes. -/
def Piece.ofToken (text : List Char) (line : Nat) : Piece :=
  let letters := text.takeWhile fun c => c != '\'' && c != '"'
  let quoted := text.drop letters.length
  let content := (quoted.drop 1).dropLast
  let twice := (quoted.head?.map fun quote => [quote, quote]).getD []
  { letters := letters.map Char.toLower
    body :=
      if 4 ≤ content.length && content.take 2 == twice then (content.drop 2).dropLast.dropLast
      else content
    line }

/-- Whether a piece stands for bytes. -/
def Piece.isBytes (piece : Piece) : Bool :=
  piece.letters.contains 'b'

/-- Whether backslashes stand for themselves. -/
def Piece.isRaw (piece : Piece) : Bool :=
  piece.letters.contains 'r'

/-- Whether expressions are put into a piece. -/
def Piece.isFormatted (piece : Piece) : Bool :=
  piece.letters.contains 'f'

/-! ## Escape sequences -/

/-- A character beyond ASCII as an escape sequence, any other one as it is. -/
def inAscii (c : Char) : List Char :=
  if c.toNat < 128 then [c] else '\\' :: 'U' :: hexDigits 8 c.toNat

/-- A text in ASCII. A backslash before another character is one that stands for itself. -/
def textInAscii : List Char → List Char
  | [] => []
  | '\\' :: c :: rest =>
    (if c.toNat < 128 then ['\\', c] else "\\u005c".toList ++ inAscii c) ++ textInAscii rest
  | c :: rest => inAscii c ++ textInAscii rest

/-- How many hexadecimal digits an escape sequence has after its letter. -/
def escapeDigits? : Char → Option Nat
  | 'x' => some 2
  | 'u' => some 4
  | 'U' => some 8
  | _ => none

/-- The fault of an escape sequence that starts at a position, given the text after its backslash.
    No character is known by its name. -/
def escapeFaultAt? (position : Nat) : List Char → Option TextFault
  | 'N' :: '\x7b' :: rest =>
    let name := rest.takeWhile (· != '\x7d')
    if name.isEmpty then some (.escape position (position + 2) .malformedName)
    else if name.length = rest.length then
      some (.escape position (position + 2 + name.length) .malformedName)
    else some (.escape position (position + 3 + name.length) .unknownName)
  | 'N' :: _ => some (.escape position (position + 1) .malformedName)
  | letter :: rest => do
    let count ← escapeDigits? letter
    let digits := (rest.take count).takeWhile fun c => (hexValue? c).isSome
    if digits.length < count then
      some (.escape position (position + 1 + digits.length) (.truncated letter count))
    else if 0x10FFFF < digits.foldl (fun n c => n * 16 + (hexValue? c).getD 0) 0 then
      some (.escape position (position + 1 + count) .noCharacter)
    else none
  | [] => none

/-- The first fault of the escape sequences in a text in ASCII. -/
def escapeFault? (position : Nat) : List Char → Option TextFault
  | [] => none
  | '\\' :: c :: rest =>
    escapeFaultAt? position (c :: rest) <|> escapeFault? (position + 2) rest
  | _ :: rest => escapeFault? (position + 1) rest

/-- The first fault of the escape sequences in bytes. -/
def byteEscapeFault? (position : Nat) : List Char → Option TextFault
  | [] => none
  | '\\' :: c :: rest =>
    let digits := (rest.take 2).takeWhile fun c => (hexValue? c).isSome
    if c = 'x' && digits.length < 2 then some (.byteEscape position)
    else byteEscapeFault? (position + 2) rest
  | _ :: rest => byteEscapeFault? (position + 1) rest

/-! ## Pieces side by side -/

/-- The fault of a piece. -/
def Piece.fault? (piece : Piece) : Option TextFault :=
  if piece.isBytes then
    if piece.body.any fun c => 128 ≤ c.toNat then some .wideByte
    else if piece.isRaw then none
    else byteEscapeFault? 0 piece.body
  else if piece.isRaw then none
  else escapeFault? 0 (textInAscii piece.body)

/-- The first fault of pieces side by side, given whether the first one stands for bytes. -/
def piecesFault? (areBytes : Bool) (formattedFault? : Piece → Option Complaint) :
    List Piece → Option Complaint
  | [] => none
  | piece :: rest =>
    (if piece.isFormatted then none else piece.fault?.map .text)
      <|> (if piece.isBytes = areBytes then none else some (.text .mixed))
      <|> (if piece.isFormatted then formattedFault? piece else none)
      <|> piecesFault? areBytes formattedFault? rest

/-- The text that pieces give together. -/
def joinPieces (formattedFault? : Piece → Option Complaint) (phrases : List Phrase) :
    Except Complaint Phrase :=
  let pieces := phrases.filterMap fun
    | .piece text line => some (Piece.ofToken text.toList line)
    | _ => none
  let areBytes := (pieces.head?.map Piece.isBytes).getD false
  match piecesFault? areBytes formattedFault? pieces with
  | some complaint => .error complaint
  | none =>
    if pieces.any Piece.isFormatted then .ok (.other .formattedText)
    else .ok (.constant (if areBytes then .bytes else .text))

end SourceOutline.Literal
