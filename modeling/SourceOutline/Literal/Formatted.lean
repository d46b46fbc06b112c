import SourceOutline.Literal.Grammar

set_option autoImplicit false

/-! # Texts with expressions

Expressions in curly brackets may be put into a text. After an expression there may be an equals
sign, a letter that says how its value is converted, and a format, which is a text with expressions
of its own. Brackets that belong to the text are written twice, but not in a format. -/

namespace SourceOutline.Literal

/-! ## The text around expressions -/

/-- What ends a stretch of plain text. -/
inductive PlainEnd where
  /-- A bracket that is written twice. -/
  | twice
  | bracket
  | finish
deriving Repr, DecidableEq

/-- Whether a character starts or ends an expression. -/
def isBrace (c : Char) : Bool :=
  c = '\x7b' || c = '\x7d'

/-- Plain text up to its end, what ends it, and the text after it. The next `skip` characters belong
    to the name of a character; `named` tells that its end is looked for. -/
def takePlain (isRaw inFormat : Bool) (skip : Nat) (named : Bool) :
    List Char → Except FormattedFault (List Char × PlainEnd × List Char)
  | [] => .ok ([], .finish, [])
  | c :: rest =>
    let goOn (skip : Nat) (named : Bool) := do
      let (plain, stop, after) ← takePlain isRaw inFormat skip named rest
      return (c :: plain, stop, after)
    match skip with
    | skip + 1 => goOn skip named
    | 0 =>
      if named then goOn 0 (c != '\x7d')
      else if c = '\\' && !isRaw then
        match rest with
        | 'N' :: '\x7b' :: _ => goOn 2 true
        | 'N' :: _ => goOn 2 false
        | d :: _ => goOn (if isBrace d then 0 else 1) false
        | [] => goOn 0 false
      else if !isBrace c then goOn 0 false
      else if inFormat then .ok ([], .bracket, c :: rest)
      else if rest.head? = some c then .ok ([c], .twice, rest.tail)
      else if c = '\x7d' then .error .loneBrace
      else .ok ([], .bracket, c :: rest)

/-! ## Expressions -/

/-- The text from the end of an expression on. The next `skip` characters belong to what stands
    before them; `quote` is the quote of the text that the position is in, with whether it is
    written three times, and `opened` are the open brackets. -/
def afterExpression (skip : Nat) (quote : Option (Char × Bool)) (opened : List Char) :
    List Char → Except FormattedFault (List Char)
  | [] =>
    if quote.isSome then .error .openText
    else
      match opened with
      | opening :: _ => .error (.unmatched opening)
      | [] => .ok []
  | c :: rest =>
    match skip with
    | skip + 1 => afterExpression skip quote opened rest
    | 0 =>
      let isTriple := rest.take 2 == [c, c]
      if c = '\\' then .error .backslash
      else
        match quote with
        | some (mark, isBlock) =>
          if c = mark && (!isBlock || isTriple) then
            afterExpression (if isBlock then 2 else 0) none opened rest
          else afterExpression 0 quote opened rest
        | none =>
          if c = '\'' || c = '"' then
            afterExpression (if isTriple then 2 else 0) (some (c, isTriple)) opened rest
          else if (closingOf? c).isSome then
            if nestingLimit ≤ opened.length then .error .manyBrackets
            else afterExpression 0 none (c :: opened) rest
          else if c = '#' then .error .comment
          else if opened.isEmpty && "!=<>".toList.contains c && rest.head? = some '=' then
            afterExpression 1 none opened rest
          else if opened.isEmpty && "!:=\x7d".toList.contains c then .ok (c :: rest)
          else if c = ')' || c = ']' || c = '\x7d' then
            match opened with
            | [] => .error (.unmatched c)
            | opening :: outer =>
              if closingOf? opening = some c then afterExpression 0 none outer rest
              else .error (.mismatched c opening)
          else afterExpression 0 none opened rest

/-- Whether blanks between tokens may consist of a character. -/
def isTokenBlank (c : Char) : Bool :=
  c = ' ' || c = '\t' || c = '\n' || c = '\x0c'

/-- Accept the expression at the head of a text, given what follows it. -/
def checkExpression (complaint? : List Char → List Char → Option Complaint) (text : List Char)
    (next : Char) (rest : List Char) : Except Complaint Unit :=
  let expression := text.take (text.length - (rest.length + 1))
  if expression.all isTokenBlank then
    .error (.formatted (if next = '\x7d' then .empty else .missingBefore next))
  else
    match complaint? text ('(' :: expression ++ [')', '\n']) with
    | some complaint => .error complaint
    | none => .ok ()

/-- The text after an equals sign and the blanks after it, if it starts with one. -/
def afterEquals : List Char → List Char
  | '=' :: rest => rest.dropWhile fun c => isTokenBlank c || c = '\x0b' || c = '\r'
  | text => text

/-- The text after the letter of a conversion, if it starts with an exclamation mark. -/
def afterConversion : List Char → Except FormattedFault (List Char)
  | ['!'] => .error .unclosed
  | '!' :: letter :: rest =>
    if letter = 's' || letter = 'r' || letter = 'a' then .ok rest else .error .conversion
  | text => .ok text

/-! ## The whole text -/

/-- How deep formats may be inside one another. -/
def formatLimit : Nat := 2

/-- Go over a text with expressions and give the text after it, which a format leaves to the text
    that it is in. `level` tells how many texts a format is in. An expression is judged together
    with the text from it on. -/
def overFormatted (complaint? : List Char → List Char → Option Complaint) (isRaw : Bool) :
    Nat → Nat → List Char → Except Complaint (List Char)
  | 0, _, text => .ok text
  | fuel + 1, level, text => do
    let (plain, stop, rest) ← (takePlain isRaw (level != 0) 0 false text).mapError .formatted
    if !isRaw then
      if let some fault := escapeFault? 0 (textInAscii plain) then throw (.text fault)
    match stop, rest with
    | .twice, rest => overFormatted complaint? isRaw fuel level rest
    | .bracket, '\x7b' :: field =>
      if formatLimit ≤ level then throw (.formatted .deepNesting)
      let rest ← (afterExpression 0 none [] field).mapError .formatted
      match rest with
      | [] => throw (.formatted .unclosed)
      | next :: after =>
        checkExpression complaint? field next after
        if (afterEquals rest).isEmpty then throw (.formatted .unclosed)
        let rest ← (afterConversion (afterEquals rest)).mapError .formatted
        let rest ←
          match rest with
          | [':'] => throw (.formatted .unclosed)
          | ':' :: format => overFormatted complaint? isRaw fuel (level + 1) format
          | rest => pure rest
        match rest with
        | '\x7d' :: rest => overFormatted complaint? isRaw fuel level rest
        | _ => throw (.formatted .unclosed)
    | .bracket, rest => return rest
    | .finish, rest => if level = 0 then return rest else throw (.formatted .unclosed)

/-- The complaint of a fault in an expression that is put into a text. One from further inside is
    handed on. -/
def complaintInText : Stop → Complaint
  | .token fault => .token fault
  | .order (.token fault) => .token fault
  | .order (.inText complaint) => .inText complaint
  | .order complaint => .inText complaint
  | .tooDeep => .inText .invalid

/-- The complaint of a piece of a text into which expressions are put. Pieces may be inside one
    another to the given depth. -/
def formattedFault? : Nat → Piece → Option Complaint
  | 0, _ => none
  | depth + 1, piece =>
    let complaint? (text expression : List Char) : Option Complaint :=
      let before := piece.body.take (piece.body.length - text.length)
      let line := piece.line + before.count '\n'
      match readBy .starredExpressions (formattedFault? depth) line expression with
      | .error stop => some (complaintInText stop)
      | .ok _ => none
    match overFormatted complaint? piece.isRaw (piece.body.length + 1) 0 piece.body with
    | .error complaint => some complaint
    | .ok _ => none

end SourceOutline.Literal
