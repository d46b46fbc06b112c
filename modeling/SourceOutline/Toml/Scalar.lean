import SourceOutline.Config.Value
import SourceOutline.Number.Literal

set_option autoImplicit false

/-! # TOML scalars and keys

Readers for the parts of a TOML document that do not nest: strings of the four kinds, dates and
times, numbers, and keys. Each one takes the text from its first character on and gives what it has
read with the text after it, or nothing if the text is not well-formed. -/

namespace SourceOutline.Toml

/-! ## Strings -/

/-- Whether a character may not stand in a string or a comment: a control character but the tab. -/
def isForbidden (c : Char) : Bool :=
  (c.toNat < 0x20 && c != '\t') || c.toNat == 0x7F

/-- The character that a short escape stands for. -/
def shortEscape? (c : Char) : Option Char :=
  match c with
  | 'b' => some '\x08'
  | 't' => some '\t'
  | 'n' => some '\n'
  | 'f' => some '\x0c'
  | 'r' => some '\r'
  | '"' => some '"'
  | '\\' => some '\\'
  | _ => none

/-- The character of a code point in hexadecimal digits. -/
def codePoint? (digits : List Char) : Option Char := do
  let n ← hexNumber? digits
  if h : n.isValidChar then some (Char.ofNatAux n h) else none

/-- Put a character in front of what a reader gives. -/
def consRead (c : Char) (read : Option (List Char × List Char)) : Option (List Char × List Char) :=
  read.map fun (cs, rest) => (c :: cs, rest)

/-- The rest of a string in double quotes. -/
def readBasic : List Char → Option (List Char × List Char)
  | [] => none
  | '"' :: rest => some ([], rest)
  | '\\' :: 'u' :: a :: b :: c :: d :: rest => do
    consRead (← codePoint? [a, b, c, d]) (readBasic rest)
  | '\\' :: 'U' :: a :: b :: c :: d :: e :: f :: g :: h :: rest => do
    consRead (← codePoint? [a, b, c, d, e, f, g, h]) (readBasic rest)
  | '\\' :: c :: rest => do consRead (← shortEscape? c) (readBasic rest)
  | c :: rest => if isForbidden c || c = '\\' then none else consRead c (readBasic rest)

/-- The rest of a string in single quotes, which has no escapes. -/
def readLiteral : List Char → Option (List Char × List Char)
  | [] => none
  | '\'' :: rest => some ([], rest)
  | c :: rest => if isForbidden c then none else consRead c (readLiteral rest)

/-- After three closing quotes, up to two more belong to the string. -/
def extraQuotes (quote : Char) : List Char → List Char × List Char
  | c :: d :: rest =>
    if c = quote && d = quote then ([c, d], rest)
    else if c = quote then ([c], d :: rest)
    else ([], c :: d :: rest)
  | [c] => if c = quote then ([c], []) else ([], [c])
  | [] => ([], [])

/-- Whether only blanks stand before the end of the line. -/
def endsLine (text : List Char) : Bool :=
  (text.dropWhile fun c => c = ' ' || c = '\t').head? == some '\n'

/-- The rest of a string in three double quotes. A backslash at the end of a line drops the break
    and the white space after it, which `skipping` tells. -/
def readLongBasic (skipping : Bool) : List Char → Option (List Char × List Char)
  | [] => none
  | '"' :: '"' :: '"' :: rest => some (extraQuotes '"' rest)
  | '\\' :: 'u' :: a :: b :: c :: d :: rest => do
    consRead (← codePoint? [a, b, c, d]) (readLongBasic false rest)
  | '\\' :: 'U' :: a :: b :: c :: d :: e :: f :: g :: h :: rest => do
    consRead (← codePoint? [a, b, c, d, e, f, g, h]) (readLongBasic false rest)
  | '\\' :: c :: rest =>
    if endsLine (c :: rest) then readLongBasic true rest
    else do consRead (← shortEscape? c) (readLongBasic false rest)
  | c :: rest =>
    if skipping && (c = ' ' || c = '\t' || c = '\n') then readLongBasic true rest
    else if (isForbidden c && c != '\n') || c = '\\' then none
    else consRead c (readLongBasic false rest)

/-- The rest of a string in three single quotes. -/
def readLongLiteral : List Char → Option (List Char × List Char)
  | [] => none
  | '\'' :: '\'' :: '\'' :: rest => some (extraQuotes '\'' rest)
  | c :: rest =>
    if isForbidden c && c != '\n' then none else consRead c (readLongLiteral rest)

/-- The text after a break at the start of a long string, which is dropped. -/
def dropFirstBreak : List Char → List Char
  | '\n' :: rest => rest
  | text => text

/-- A string with its quotes. -/
def readString? : List Char → Option (String × List Char)
  | '"' :: '"' :: '"' :: rest =>
    (readLongBasic false (dropFirstBreak rest)).map fun (cs, rest) => (String.ofList cs, rest)
  | '"' :: rest => (readBasic rest).map fun (cs, rest) => (String.ofList cs, rest)
  | '\'' :: '\'' :: '\'' :: rest =>
    (readLongLiteral (dropFirstBreak rest)).map fun (cs, rest) => (String.ofList cs, rest)
  | '\'' :: rest => (readLiteral rest).map fun (cs, rest) => (String.ofList cs, rest)
  | _ => none

/-! ## Numbers -/

/-- Digits of a base, with single underscores between them left out. -/
def digitRun (isDigit : Char → Bool) : List Char → List Char × List Char
  | [] => ([], [])
  | '_' :: c :: rest =>
    if isDigit c then
      let (digits, after) := digitRun isDigit rest
      (c :: digits, after)
    else ([], '_' :: c :: rest)
  | c :: rest =>
    if isDigit c then
      let (digits, after) := digitRun isDigit rest
      (c :: digits, after)
    else ([], c :: rest)

/-- Digits of which the first is not an underscore; there has to be one. -/
def digits? (isDigit : Char → Bool) (text : List Char) : Option (List Char × List Char) :=
  match text with
  | c :: _ => if isDigit c then some (digitRun isDigit text) else none
  | [] => none

/-- Whether a character is an ASCII decimal digit. -/
def isDigit (c : Char) : Bool :=
  '0' ≤ c && c ≤ '9'

/-- The number that digits stand for in a base. -/
def numberOf (base : Nat) (digits : List Char) : Nat :=
  digits.foldl (fun n c => n * base + (hexValue? c).getD 0) 0

/-- An integer in a base other than ten, after the letter of the base. -/
def readInBase (base : Nat) (text : List Char) : Option (Value × List Char) := do
  let (digits, rest) ← digits? (fun c => (hexValue? c).any (· < base)) text
  return (.int (numberOf base digits), rest)

/-- The whole part of a decimal: a single zero, or digits that do not start with one. -/
def wholeDigits? : List Char → Option (List Char × List Char)
  | '0' :: rest => some (['0'], rest)
  | text => digits? isDigit text

/-- The digits after a point; without them the text is as before. -/
def fractionDigits (text : List Char) : Option (List Char) × List Char :=
  match text with
  | '.' :: rest =>
    match digits? isDigit rest with
    | some (digits, after) => (some digits, after)
    | none => (none, text)
  | _ => (none, text)

/-- A sign and the text after it. -/
def readSign : List Char → Bool × List Char
  | '-' :: rest => (true, rest)
  | '+' :: rest => (false, rest)
  | text => (false, text)

/-- An exponent; without digits the text is as before. -/
def readExponent (text : List Char) : Option Int × List Char :=
  match text with
  | c :: rest =>
    if c = 'e' || c = 'E' then
      let (negative, unsigned) := readSign rest
      match digits? isDigit unsigned with
      | some (digits, after) =>
        let n : Int := numberOf 10 digits
        (some (if negative then -n else n), after)
      | none => (none, text)
    else (none, text)
  | [] => (none, text)

/-- A decimal integer or floating-point number after its sign. There may be a limit on the digits of
    an integer. -/
def readDecimal (limit : Option Nat) (negative : Bool) (text : List Char) :
    Option (Value × List Char) := do
  let (whole, afterWhole) ← wholeDigits? text
  let (fraction?, afterFraction) := fractionDigits afterWhole
  let (exponent?, rest) := readExponent afterFraction
  if fraction?.isNone && exponent?.isNone then
    guard (limit.all (whole.length ≤ ·))
    let n : Int := numberOf 10 whole
    return (.int (if negative then -n else n), rest)
  else
    let fraction := fraction?.getD []
    let digits := numberOf 10 (whole ++ fraction)
    return (.float (Binary64.ofDecimal negative digits (exponent?.getD 0 - fraction.length)), rest)

/-- A number. -/
def readNumber? (limit : Option Nat) (text : List Char) : Option (Value × List Char) :=
  match text with
  | '0' :: 'x' :: rest => readInBase 16 rest
  | '0' :: 'o' :: rest => readInBase 8 rest
  | '0' :: 'b' :: rest => readInBase 2 rest
  | _ =>
    let (negative, unsigned) := readSign text
    match unsigned with
    | 'i' :: 'n' :: 'f' :: rest => some (.float (.infinite negative), rest)
    | 'n' :: 'a' :: 'n' :: rest => some (.float .nan, rest)
    | _ => readDecimal limit negative unsigned

/-! ## Dates and times -/

/-- As many digits as asked for, as the number that they stand for. -/
def readDigits? (count : Nat) (text : List Char) : Option (Nat × List Char) :=
  let digits := text.take count
  if digits.length = count && digits.all isDigit then
    some (numberOf 10 digits, text.drop count)
  else none

/-- As many digits as asked for, with a mark after them that is read too. -/
def readMarked? (count : Nat) (mark : Char) (text : List Char) : Option (Nat × List Char) := do
  let (n, rest) ← readDigits? count text
  match rest with
  | c :: rest => if c = mark then some (n, rest) else none
  | [] => none

/-- A date. -/
def readDate? (text : List Char) : Option (Date × List Char) := do
  let (year, rest) ← readMarked? 4 '-' text
  let (month, rest) ← readMarked? 2 '-' rest
  let (day, rest) ← readDigits? 2 rest
  return (← Date.ofParts? year month day, rest)

/-- The millionths that the digits after a point stand for. Further digits do not count. -/
def readMillionths (text : List Char) : Nat × List Char :=
  match text with
  | '.' :: rest =>
    match rest.takeWhile isDigit with
    | [] => (0, text)
    | digits => (numberOf 10 ((digits ++ List.replicate 6 '0').take 6), rest.dropWhile isDigit)
  | _ => (0, text)

/-- A time of day. -/
def readClock? (text : List Char) : Option (Clock × List Char) := do
  let (hour, rest) ← readMarked? 2 ':' text
  let (minute, rest) ← readMarked? 2 ':' rest
  let (second, rest) ← readDigits? 2 rest
  let (microsecond, rest) := readMillionths rest
  return (← Clock.ofParts? hour minute second microsecond, rest)

/-- By how many minutes a time is ahead of universal time, if it says so. -/
def readAhead? (text : List Char) : Option (Option Int × List Char) :=
  let signed (sign : Int) (rest : List Char) : Option (Option Int × List Char) := do
    let (hours, rest) ← readMarked? 2 ':' rest
    let (minutes, rest) ← readDigits? 2 rest
    guard (hours < 24 && minutes < 60)
    return (some (sign * (hours * 60 + minutes : Nat)), rest)
  match text with
  | 'Z' :: rest | 'z' :: rest => some (some 0, rest)
  | '+' :: rest => signed 1 rest
  | '-' :: rest => signed (-1) rest
  | _ => some (none, text)

/-- A date, a time of day, or a date and a time with a `T` or a space between them. -/
def readMoment? (text : List Char) : Option (Moment × List Char) :=
  match readDate? text with
  | none => (readClock? text).map fun (clock, rest) => (.time clock, rest)
  | some (date, c :: rest) =>
    if c = 'T' || c = 't' || c = ' ' then
      match readClock? rest with
      | some (clock, rest) => (readAhead? rest).map fun (ahead?, rest) =>
        (.dateTime date clock ahead?, rest)
      | none => some (.date date, c :: rest)
    else some (.date date, c :: rest)
  | some (date, []) => some (.date date, [])

/-! ## Keys -/

/-- Whether a character may stand in a key without quotes. -/
def isBareKeyChar (c : Char) : Bool :=
  c.isAlphanum || c = '_' || c = '-'

/-- The text after spaces and tabs. -/
def skipBlanks (text : List Char) : List Char :=
  text.dropWhile fun c => c = ' ' || c = '\t'

/-- One part of a key. -/
def readKeyPart? : List Char → Option (String × List Char)
  | '"' :: rest => (readBasic rest).map fun (cs, rest) => (String.ofList cs, rest)
  | '\'' :: rest => (readLiteral rest).map fun (cs, rest) => (String.ofList cs, rest)
  | text =>
    match text.takeWhile isBareKeyChar with
    | [] => none
    | part => some (String.ofList part, text.dropWhile isBareKeyChar)

/-- A key whose parts are divided by dots, with the blanks after it read too. There are at most as
    many parts as `budget` says. -/
def readKey? : Nat → List Char → Option (List String × List Char)
  | 0, _ => none
  | budget + 1, text => do
    let (part, afterPart) ← readKeyPart? text
    match skipBlanks afterPart with
    | '.' :: rest => do
      let (parts, rest) ← readKey? budget (skipBlanks rest)
      return (part :: parts, rest)
    | rest => return ([part], rest)

end SourceOutline.Toml
