import SourceOutline.Text.Hex
import SourceOutline.Text.Printable

set_option autoImplicit false

/-! # Tokens

The words that a literal is made of: names, numbers, texts between quotes and operators, with the
ends of lines and the changes of the margin where no bracket is open. -/

namespace SourceOutline.Literal

/-- What a token is. -/
inductive TokenKind where
  | name
  | number
  | text
  | operator
  | newline
  | indent
  | dedent
  | finish
deriving Repr, DecidableEq

/-- A token: how it is written, the line on which it starts, how many brackets are open after it,
    and whether it ends only because the text does. -/
structure Token where
  kind : TokenKind
  text : String := ""
  line : Nat
  depth : Nat
  isLast : Bool := false
deriving Repr, DecidableEq

/-- The names that have a meaning of their own. -/
def keywords : List String :=
  ["False", "None", "True", "and", "as", "assert", "async", "await", "break", "class", "continue",
   "def", "del", "elif", "else", "except", "finally", "for", "from", "global", "if", "import", "in",
   "is", "lambda", "nonlocal", "not", "or", "pass", "raise", "return", "try", "while", "with",
   "yield"]

/-- Whether a token is a name that can be given to something. -/
def Token.isFree (token : Token) : Bool :=
  token.kind = .name && !keywords.contains token.text

/-- Whether a token is a certain keyword or operator. -/
def Token.isWord (token : Token) (word : String) : Bool :=
  (token.kind = .name || token.kind = .operator) && token.text == word

/-! ## Faults -/

/-- The ways in which a number is written. -/
inductive NumeralKind where
  | binary
  | octal
  | decimal
  | hexadecimal
  | imaginary
deriving Repr, DecidableEq

/-- The name of a way in which a number is written. -/
def NumeralKind.name : NumeralKind → String
  | binary => "binary"
  | octal => "octal"
  | decimal => "decimal"
  | hexadecimal => "hexadecimal"
  | imaginary => "imaginary"

/-- Why a text cannot be cut into tokens. -/
inductive TokenFault where
  /-- A text between quotes has no end; the line on which this shows. -/
  | openText (inBlock : Bool) (line : Nat)
  | numeral (kind : NumeralKind)
  | digit (c : Char) (kind : NumeralKind)
  | leadingZeros
  | unopened (closing : Char)
  /-- Brackets do not match; the line of the opening one if it is another one. -/
  | mismatched (closing opening : Char) (line : Option Nat)
  | deepNesting
  | character (c : Char)
  | unclosed (opening : Char)
  | earlyEnd
  | continuation
  | unevenMargin
deriving Repr, DecidableEq

/-- A code point with at least four hexadecimal digits. -/
def codePointText (c : Char) : String :=
  let digits := hexDigits 6 c.toNat
  String.ofList ("U+".toList ++ (digits.take 2).dropWhile (· = '0') ++ digits.drop 2)
    |>.map Char.toUpper

/-- The wording of a fault. -/
def TokenFault.message : TokenFault → String
  | openText inBlock line =>
    "unterminated " ++ (if inBlock then "triple-quoted " else "")
      ++ "string literal (detected at line " ++ toString line ++ ")"
  | numeral kind => "invalid " ++ kind.name ++ " literal"
  | digit c kind => "invalid digit '" ++ c.toString ++ "' in " ++ kind.name ++ " literal"
  | leadingZeros =>
    "leading zeros in decimal integer literals are not permitted; "
      ++ "use an 0o prefix for octal integers"
  | unopened closing => "unmatched '" ++ closing.toString ++ "'"
  | mismatched closing opening line =>
    "closing parenthesis '" ++ closing.toString ++ "' does not match opening parenthesis '"
      ++ opening.toString ++ "'" ++ (line.map fun n => " on line " ++ toString n).getD ""
  | deepNesting => "too many nested parentheses"
  | character c =>
    if isPrintable c then "invalid character '" ++ c.toString ++ "' (" ++ codePointText c ++ ")"
    else "invalid non-printable character " ++ codePointText c
  | unclosed opening => "'" ++ opening.toString ++ "' was never closed"
  | earlyEnd => "unexpected EOF while parsing"
  | continuation => "unexpected character after line continuation character"
  | unevenMargin => "unindent does not match any outer indentation level"

end SourceOutline.Literal
