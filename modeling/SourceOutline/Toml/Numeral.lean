import SourceOutline.Config.Value
import SourceOutline.Number.Literal
import SourceOutline.Text.Hex
import SourceOutline.Text.Word
import SourceOutline.Toml.Fault

set_option autoImplicit false

/-! # Numerals

A line whose fault is sought may hold any numeral that stands for a number, whether or not a
document may hold it: with digits of any script, blanks around it, a second sign, or underscores
at any place. Only the numeral that follows an equals sign must be free of zeros in front and of
underscores that do not stand between digits. -/

namespace SourceOutline.Toml

/-! ## Characters -/

/-- The ASCII character that a character of a numeral counts as. -/
def plainChar (c : Char) : Char :=
  if c.toNat < 0x7F then c
  else if isBlank c then ' '
  else
    match decimalValue? c with
    | some digit => Char.ofNat ('0'.toNat + digit)
    | none => '?'

/-- A numeral in ASCII characters without the blanks around it. -/
def plainNumeral (text : List Char) : List Char :=
  trimNumber (text.map plainChar)

/-- Whether underscores stand between characters of a kind only, given the character before. -/
def underscoresBetween (allowed : Char → Bool) (before : Char) : List Char → Bool
  | [] => true
  | ['_'] => false
  | '_' :: c :: rest => allowed before && allowed c && underscoresBetween allowed c rest
  | c :: rest => underscoresBetween allowed c rest

/-- Whether a numeral has no zeros in front and no underscores but between digits. -/
def isTidy (text : List Char) : Bool :=
  let (_, digits) := takeSign (trim text)
  underscoresBetween (fun c => (hexValue? c).isSome) '_' digits
    && match digits with
      | '0' :: c :: _ => !(c.isDigit || c = '_')
      | _ => true

/-! ## Floating-point numbers -/

/-- The floating-point number that a numeral without underscores stands for. -/
def realOf? (text : List Char) : Option Binary64 :=
  realOfNumeral? (plainNumeral text)

/-- Whether a numeral stands for a floating-point number. Underscores stand between digits. -/
def isReal (text : List Char) : Bool :=
  let numeral := plainNumeral text
  underscoresBetween Char.isDigit '_' numeral && (realOf? (numeral.filter (· != '_'))).isSome

/-! ## Integers -/

/-- The integer that digits of a base stand for; there has to be one. -/
def naturalInBase? (base : Nat) (digits : List Char) : Option Nat := do
  let values ← digits.mapM hexValue?
  guard (!values.isEmpty && values.all (· < base))
  return values.foldl (fun n digit => n * base + digit) 0

/-- The integer that a numeral without a sign stands for. A zero in front announces a base, unless
    there are only zeros. -/
def naturalOf? (numeral : List Char) : Option Nat :=
  match numeral with
  | '0' :: 'x' :: digits | '0' :: 'X' :: digits => naturalInBase? 16 digits
  | '0' :: 'o' :: digits | '0' :: 'O' :: digits => naturalInBase? 8 digits
  | '0' :: 'b' :: digits | '0' :: 'B' :: digits => naturalInBase? 2 digits
  | _ => do
    let n ← naturalInBase? 10 numeral
    guard (numeral.length ≤ digitLimit && (n = 0 || numeral.head? ≠ some '0'))
    return n

/-- The integer that a numeral without underscores stands for. -/
def integerOf? (text : List Char) : Option Int := do
  let (negative, numeral) := takeSign (plainNumeral text)
  let n : Int ← naturalOf? numeral
  return if negative then -n else n

/-! ## Numbers -/

/-- The number that a numeral stands for. -/
def numberOf? (text : List Char) : Option Value :=
  let (negative, unsigned) := takeSign text
  let numeral := unsigned.filter (· != '_')
  let word := String.ofList (numeral.map Char.toLower)
  let hasPoint := numeral.contains '.'
  let hasExponent := !numeral.contains 'x' && (numeral.contains 'e' || numeral.contains 'E')
  let real := (realOf? numeral).map fun x => Value.float (if negative then x.neg else x)
  if hasPoint || hasExponent then
    let fraction := (numeral.dropWhile (· != '.')).drop 1
    if hasPoint && fraction.isEmpty || !numeral.head?.any Char.isDigit then none else real
  else if word = "inf" || word = "nan" then real
  else (integerOf? numeral).map fun n => Value.int (if negative then -n else n)

end SourceOutline.Toml
