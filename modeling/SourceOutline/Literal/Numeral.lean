import SourceOutline.Literal.Token

set_option autoImplicit false

/-! # Numbers as tokens

A number is written with digits of a base, a point, an exponent and the mark of an imaginary one,
and single underscores may stand among its digits. It has to end where no name goes on, but some
keywords may follow it directly. -/

namespace SourceOutline.Literal

/-- Whether a character may stand in a name, as far as ASCII is concerned. -/
def isNameChar (c : Char) : Bool :=
  c.isAlphanum || c = '_' || 128 ≤ c.toNat

/-- Whether a character is a digit. -/
def NumeralKind.hasDigit (kind : NumeralKind) (c : Char) : Bool :=
  match kind with
  | binary => c = '0' || c = '1'
  | octal => '0' ≤ c && c ≤ '7'
  | decimal | imaginary => c.isDigit
  | hexadecimal => (hexValue? c).isSome

/-- The text after digits. `due` tells that a digit has to follow, `mark` that an underscore may. -/
def afterDigits (kind : NumeralKind) (due mark : Bool) :
    List Char → Except TokenFault (List Char)
  | [] => if due then .error (.numeral kind) else .ok []
  | c :: rest =>
    if kind.hasDigit c then afterDigits kind false true rest
    else if c = '_' && mark then afterDigits kind true false rest
    else if c.isDigit then .error (.digit c kind)
    else if due then .error (.numeral kind)
    else .ok (c :: rest)

/-- Whether a number may end before a text. A character beyond ASCII is no part of it. -/
def mayFollowNumber : List Char → Bool
  | 'i' :: 'f' :: _ | 'i' :: 'n' :: _ | 'i' :: 's' :: _ => true
  | text =>
    let word := String.ofList (text.takeWhile isNameChar)
    !text.head?.any (fun c => c.isAlphanum || c = '_')
      || ["and", "else", "for", "not", "or"].contains word

/-- Accept the end of a number before a text. -/
def numberEnd (kind : NumeralKind) (rest : List Char) : Except TokenFault (List Char) :=
  if mayFollowNumber rest then .ok rest else .error (.numeral kind)

/-- The text after the mark of an imaginary number, which may be left out. -/
def afterImaginaryMark : List Char → Except TokenFault (List Char)
  | 'j' :: rest | 'J' :: rest => numberEnd .imaginary rest
  | rest => numberEnd .decimal rest

/-- The text after what may follow the digits and the fraction of a number. -/
def afterExponent (text : List Char) : Except TokenFault (List Char) :=
  match text with
  | 'e' :: rest | 'E' :: rest =>
    match rest with
    | '+' :: digits | '-' :: digits => afterDigits .decimal true false digits >>= afterImaginaryMark
    | c :: _ =>
      if c.isDigit then afterDigits .decimal true false rest >>= afterImaginaryMark
      else numberEnd .decimal text
    | [] => numberEnd .decimal text
  | _ => afterImaginaryMark text

/-- The text after what may follow the point of a number. -/
def afterPoint (text : List Char) : Except TokenFault (List Char) :=
  if text.head?.any Char.isDigit then afterDigits .decimal true false text >>= afterExponent
  else afterExponent text

/-- The text after the number that a text starts with. -/
def afterNumber (text : List Char) : Except TokenFault (List Char) :=
  match text with
  | '.' :: rest => afterPoint rest
  | '0' :: 'x' :: rest | '0' :: 'X' :: rest =>
    afterDigits .hexadecimal true true rest >>= numberEnd .hexadecimal
  | '0' :: 'o' :: rest | '0' :: 'O' :: rest =>
    afterDigits .octal true true rest >>= numberEnd .octal
  | '0' :: 'b' :: rest | '0' :: 'B' :: rest =>
    afterDigits .binary true true rest >>= numberEnd .binary
  | _ => do
    let rest ← afterDigits .decimal true false text
    let digits := text.take (text.length - rest.length)
    match rest with
    | '.' :: fraction => afterPoint fraction
    | 'e' :: _ | 'E' :: _ | 'j' :: _ | 'J' :: _ => afterExponent rest
    | _ =>
      if text.head? = some '0' && digits.any (fun c => c != '0' && c != '_') then
        .error .leadingZeros
      else numberEnd .decimal rest

end SourceOutline.Literal
