import SourceOutline.Number.Binary64
import SourceOutline.Text.Blank

set_option autoImplicit false

/-! # Numbers given as text

A number may be given with blanks around it, a sign, and single underscores among its digits, which
are ASCII digits. An integer may have zeros in front, and a point with zeros alone after it. The
four information separators do not count as blanks here. -/

namespace SourceOutline

/-! ## Parts of numbers -/

/-- Whether `c` may stand around a number. -/
def isNumberBlank (c : Char) : Bool :=
  isBlank c && !(0x1C ≤ c.toNat && c.toNat ≤ 0x1F)

/-- A text without the blanks around a number. -/
def trimNumber (text : List Char) : List Char :=
  ((text.dropWhile isNumberBlank).reverse.dropWhile isNumberBlank).reverse

/-- The number that ASCII digits stand for. -/
def naturalOf (digits : List Char) : Nat :=
  digits.foldl (fun n c => n * 10 + (c.toNat - '0'.toNat)) 0

/-- Whether two underscores stand side by side in a text. -/
def hasDoubleUnderscore : List Char → Bool
  | '_' :: '_' :: _ => true
  | _ :: rest => hasDoubleUnderscore rest
  | [] => false

/-- A text without its underscores, if it has some, and single ones between other characters. -/
def withoutUnderscores? (text : List Char) : Option (List Char) :=
  if !text.contains '_' || text.head? = some '_' || text.getLast? = some '_'
      || hasDoubleUnderscore text then none
  else some (text.filter (· != '_'))

/-! ## Integers -/

/-- How many digits an integer may have as text, if it is given by a user or stands in a document.
    Numbers of lines are not held against it: they count lines of a text that is there. -/
def digitLimit : Nat := 4300

/-- Whether an integer can be given as text. -/
def hasText (n : Int) : Bool :=
  (toString n.natAbs).length ≤ digitLimit

/-- What is said of the limit, with a remark on the number. -/
def digitLimitMessage (remark : String) : String :=
  "Exceeds the limit (" ++ toString digitLimit ++ " digits) for integer string conversion" ++ remark
    ++ "; use sys.set_int_max_str_digits() to increase the limit"

/-- What is said of an integer that cannot be given as text. -/
def longIntegerMessage : String :=
  digitLimitMessage ""

/-- What is said of a text with too many digits for an integer. -/
def longNumeralMessage (digits : Nat) : String :=
  digitLimitMessage (": value has " ++ toString digits ++ " digits")

/-- A sign, and the text after it. -/
def takeSign : List Char → Bool × List Char
  | '-' :: rest => (true, rest)
  | '+' :: rest => (false, rest)
  | text => (false, text)

/-- The number that a plain decimal numeral stands for, which consists of digits. -/
def naturalOfNumeral? (digits : List Char) : Option Nat :=
  if digits.isEmpty || !digits.all Char.isDigit || digitLimit < digits.length then none
  else some (naturalOf digits)

/-- A text without the zeros and underscores in front of a number whose first character, a zero or
    an underscore, is given. If nothing or a point follows them, the last one stays. -/
def dropZeros? (last : Char) : List Char → Option (List Char)
  | [] => some [last]
  | c :: rest =>
    if c = '0' || c = '_' then dropZeros? c rest
    else if c = '.' then some (last :: c :: rest)
    else if c.isDigit then some (c :: rest)
    else none

/-- A text without the zeros in front of a number, which starts with a digit. -/
def dropLeadingZeros? : List Char → Option (List Char)
  | [] => none
  | c :: rest =>
    if c = '0' then dropZeros? c rest
    else if c.isDigit then some (c :: rest)
    else none

/-- A text without a point that zeros and nothing else follow. -/
def dropZeroFraction (text : List Char) : List Char :=
  let whole := text.takeWhile (· != '.')
  let fraction := text.drop (whole.length + 1)
  if !fraction.isEmpty && fraction.all (· = '0') then whole else text

/-- The integer that a text stands for. -/
def integerOfText? (text : String) : Option Int := do
  let (negative, unsigned) := takeSign (trimNumber text.toList)
  let numeral := dropZeroFraction (← dropLeadingZeros? unsigned)
  let n : Int ← naturalOfNumeral? ((withoutUnderscores? numeral).getD numeral)
  return if negative then -n else n

/-! ## Floating-point numbers -/

/-- The exponent that a text after a mantissa stands for; no text is none. -/
def exponentOfText? : List Char → Option Int
  | [] => some 0
  | c :: rest =>
    let (negative, digits) := takeSign rest
    if (c = 'e' || c = 'E') && !digits.isEmpty && digits.all Char.isDigit then
      let n : Int := naturalOf digits
      some (if negative then -n else n)
    else none

/-- The floating-point number that a numeral stands for: digits with a point among or beside them
    and perhaps an exponent, or a word for what is not finite. -/
def realOfNumeral? (text : List Char) : Option Binary64 :=
  let (negative, unsigned) := takeSign text
  let word := String.ofList (unsigned.map Char.toLower)
  if word = "inf" || word = "infinity" then some (.infinite negative)
  else if word = "nan" then some .nan
  else
    let whole := unsigned.takeWhile Char.isDigit
    let afterWhole := unsigned.drop whole.length
    let fraction := match afterWhole with
      | '.' :: rest => rest.takeWhile Char.isDigit
      | _ => []
    let afterFraction := match afterWhole with
      | '.' :: rest => rest.drop fraction.length
      | rest => rest
    if whole.isEmpty && fraction.isEmpty then none
    else (exponentOfText? afterFraction).map fun exponent =>
      Binary64.ofDecimal negative (naturalOf (whole ++ fraction)) (exponent - fraction.length)

/-- The floating-point number that a text stands for. A text with underscores has no blanks around
    the number. -/
def realOfText? (text : String) : Option Binary64 :=
  match realOfNumeral? (trimNumber text.toList) with
  | some x => some x
  | none => do realOfNumeral? (← withoutUnderscores? text.toList)

end SourceOutline
