import SourceOutline.Number.Literal
import SourceOutline.Text.Blank
import SourceOutline.Text.Lowercase
import SourceOutline.Text.Split
import SourceOutline.Text.Word

set_option autoImplicit false

/-! # Styles by their names

The look of text on a terminal is given in words: attributes such as `bold`, a colour, a colour
after `on`, and a target after `link`. Words in another order, or under a shorter name, may stand
for the same style, so every style has one normal name. -/

namespace SourceOutline.Terminal

/-! ## Colours -/

/-- The numbers of the named grays. -/
def grayNumbers : List String :=
  ["0", "100", "11", "15", "19", "23", "27", "3", "30", "35", "37", "39", "42", "46", "50", "53",
   "54", "58", "62", "63", "66", "69", "7", "70", "74", "78", "82", "84", "85", "89", "93"]

/-- The named colours: their names without the number at the end, and the numbers that each takes.
    -/
def namedColors : List (String × List String) :=
  [("aquamarine", ["1", "3"]), ("black", [""]), ("blue", ["", "1", "3"]), ("blue_violet", [""]),
   ("bright_black", [""]), ("bright_blue", [""]), ("bright_cyan", [""]), ("bright_green", [""]),
   ("bright_magenta", [""]), ("bright_red", [""]), ("bright_white", [""]), ("bright_yellow", [""]),
   ("cadet_blue", [""]), ("chartreuse", ["1", "2", "3", "4"]), ("cornflower_blue", [""]),
   ("cornsilk", ["1"]), ("cyan", ["", "1", "2", "3"]), ("dark_blue", [""]), ("dark_cyan", [""]),
   ("dark_goldenrod", [""]), ("dark_green", [""]), ("dark_khaki", [""]), ("dark_magenta", [""]),
   ("dark_olive_green", ["1", "2", "3"]), ("dark_orange", ["", "3"]), ("dark_red", [""]),
   ("dark_sea_green", ["", "1", "2", "3", "4"]), ("dark_slate_gray", ["1", "2", "3"]),
   ("dark_turquoise", [""]), ("dark_violet", [""]), ("deep_pink", ["1", "2", "3", "4"]),
   ("deep_sky_blue", ["1", "2", "3", "4"]), ("dodger_blue", ["1", "2", "3"]), ("gold", ["1", "3"]),
   ("gray", grayNumbers),
   ("green", ["", "1", "3", "4"]), ("green_yellow", [""]),
   ("grey", grayNumbers),
   ("honeydew", ["2"]), ("hot_pink", ["", "2", "3"]), ("indian_red", ["", "1"]),
   ("khaki", ["1", "3"]), ("light_coral", [""]), ("light_cyan", ["1", "3"]),
   ("light_goldenrod", ["1", "2", "3"]), ("light_green", [""]), ("light_pink", ["1", "3", "4"]),
   ("light_salmon", ["1", "3"]), ("light_sea_green", [""]), ("light_sky_blue", ["1", "3"]),
   ("light_slate_blue", [""]), ("light_slate_gray", [""]), ("light_slate_grey", [""]),
   ("light_steel_blue", ["", "1", "3"]), ("light_yellow", ["3"]), ("magenta", ["", "1", "2", "3"]),
   ("medium_orchid", ["", "1", "3"]), ("medium_purple", ["", "1", "2", "3", "4"]),
   ("medium_spring_green", [""]), ("medium_turquoise", [""]), ("medium_violet_red", [""]),
   ("misty_rose", ["1", "3"]), ("navajo_white", ["1", "3"]), ("navy_blue", [""]),
   ("orange", ["1", "3", "4"]), ("orange_red", ["1"]), ("orchid", ["", "1", "2"]),
   ("pale_green", ["1", "3"]), ("pale_turquoise", ["1", "4"]), ("pale_violet_red", ["1"]),
   ("pink", ["1", "3"]), ("plum", ["1", "2", "3", "4"]), ("purple", ["", "3", "4"]),
   ("red", ["", "1", "3"]), ("rosy_brown", [""]), ("royal_blue", ["1"]), ("salmon", ["1"]),
   ("sandy_brown", [""]), ("sea_green", ["1", "2", "3"]), ("sky_blue", ["1", "2", "3"]),
   ("slate_blue", ["1", "3"]), ("spring_green", ["1", "2", "3", "4"]),
   ("steel_blue", ["", "1", "3"]), ("tan", [""]), ("thistle", ["1", "3"]),
   ("turquoise", ["2", "4"]), ("violet", [""]), ("wheat", ["1", "4"]), ("white", [""]),
   ("yellow", ["", "1", "2", "3", "4"])]

/-- Whether a word is the name of a colour, in lower case. -/
def isNamedColor (word : String) : Bool :=
  word == "default" || namedColors.any fun (stem, numbers) =>
    numbers.any fun number => stem ++ number == word

/-- The number that decimal digits of any script stand for, if it fits a byte. -/
def byteOfDigits? (digits : List Char) : Option Nat :=
  if digits.isEmpty then none
  else do
    let n ← digits.foldlM (fun n c => (decimalValue? c).map (n * 10 + ·)) 0
    if n < 256 then some n else none

/-- Why a word gives no style. -/
inductive WordFault where
  | unknown
  /-- One of the three shares of a colour is left out. -/
  | emptyShare
  /-- One of the three shares of a colour has more digits than are read. -/
  | longShare (digits : Nat)
deriving Repr, DecidableEq

/-- The wording of a fault. -/
def WordFault.message : WordFault → String
  | unknown => "unknown style"
  | emptyShare => "invalid literal for int() with base 10: ''"
  | longShare digits => longNumeralMessage digits

/-- Whether a word in lower case gives a colour by one number: six hexadecimal digits after `#`, or
    an index in `color(...)`. -/
def isNumberedColor (word : List Char) : Bool :=
  match word with
  | '#' :: digits => digits.length == 6 && digits.all fun c => c.isDigit || ('a' ≤ c && c ≤ 'f')
  | 'c' :: 'o' :: 'l' :: 'o' :: 'r' :: '(' :: rest =>
    let digits := rest.dropLast
    rest.getLast? == some ')' && digits.length ≤ 3 && digits.all Char.isDigit
      && (byteOfDigits? digits).isSome
  | _ => false

/-- The shares of a colour that a word in lower case gives in `rgb(...)`. -/
def shares? (word : List Char) : Option (List (List Char)) :=
  match word with
  | 'r' :: 'g' :: 'b' :: '(' :: rest =>
    let content := rest.dropLast
    let shares := piecesBetween ',' content
    if rest.getLast? == some ')' && !content.isEmpty && shares.length == 3
        && content.all (fun c => c = ',' || isDecimal c) then some shares
    else none
  | _ => none

/-- Why a share of a colour is no number. -/
def shareFault? (digits : List Char) : Option WordFault :=
  if digits.isEmpty then some .emptyShare
  else if digitLimit < digits.length then some (.longShare digits.length)
  else none

/-- The colour that a word names, in lower case. -/
def color (word : String) : Except WordFault String :=
  let lower := lowercase word
  if isNamedColor lower || isNumberedColor lower.toList then .ok lower
  else
    match shares? lower.toList with
    | none => .error .unknown
    | some shares =>
      match shares.findSome? shareFault? with
      | some fault => .error fault
      | none =>
        if shares.all fun share => (byteOfDigits? share).isSome then .ok lower
        else .error .unknown

/-! ## Attributes -/

/-- The attributes in the order in which a normal name has them, each with its short name. -/
def attributeNames : List (String × String) :=
  [("bold", "b"), ("dim", "d"), ("italic", "i"), ("underline", "u"), ("blink", "blink"),
   ("blink2", "blink2"), ("reverse", "r"), ("conceal", "c"), ("strike", "s"),
   ("underline2", "uu"), ("frame", "frame"), ("encircle", "encircle"), ("overline", "o")]

/-- The attribute that a word names. -/
def attribute? (word : String) : Option String :=
  (attributeNames.find? fun names => names.1 == word || names.2 == word).map (·.1)

/-! ## Styles -/

/-- A style: its attributes, which may be switched on or off, colours, and the target of a link. -/
structure Style where
  attributes : List (String × Bool) := []
  color : Option String := none
  background : Option String := none
  link : Option String := none
deriving Repr, DecidableEq

/-- Switch an attribute on or off. -/
def Style.switch (style : Style) (name : String) (on : Bool) : Style :=
  { style with attributes := (name, on) :: style.attributes }

/-- The style that words give, on top of another. -/
def Style.ofWords (style : Style) : List String → Except WordFault Style
  | [] => .ok style
  | word :: rest =>
    match lowercase word, rest with
    | "on", name :: rest => do
      ofWords { style with background := some (← Terminal.color name) } rest
    | "not", name :: rest =>
      match attribute? name with
      | some name => ofWords (style.switch name false) rest
      | none => .error .unknown
    | "link", target :: rest => ofWords { style with link := some target } rest
    | word, rest =>
      match attribute? word with
      | some name => ofWords (style.switch name true) rest
      | none => do ofWords { style with color := some (← Terminal.color word) } rest

/-- The normal name of a style. -/
def Style.name (style : Style) : String :=
  let attributes := attributeNames.filterMap fun (name, _) =>
    (style.attributes.lookup name).map fun on => if on then name else "not " ++ name
  let words := attributes ++ style.color.toList ++ style.background.toList.map ("on " ++ ·)
    ++ style.link.toList.map ("link " ++ ·)
  if words.isEmpty then "none" else " ".intercalate words

/-- The words of a text, which blanks divide. -/
def wordsOf : List Char → List (List Char)
  | [] => []
  | c :: rest =>
    if isBlank c then wordsOf rest
    else match rest with
      | [] => [[c]]
      | d :: _ => if isBlank d then [c] :: wordsOf rest else consPiece c (wordsOf rest)

/-- The normal name of the style that a text names. What names no style is only trimmed and put into
    lower case. -/
def styleName (text : List Char) : Except WordFault String :=
  match Style.ofWords {} ((wordsOf text).map String.ofList) with
  | .ok style => .ok style.name
  | .error .unknown => .ok (lowercase (String.ofList (trim text)))
  | .error fault => .error fault

end SourceOutline.Terminal
