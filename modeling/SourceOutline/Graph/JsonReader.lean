import SourceOutline.Graph.Json

set_option autoImplicit false

/-! # Reading JSON texts

A JSON text is read in one pass. Its characters make tokens: words, which are numbers and the three
names, strings, and single marks. What has been opened and not closed yet is kept on a stack, so a
token that may come next is told by the top of the stack and by what came last. Nothing but blanks
may stand between tokens, in strings control characters have to be escaped, and surrogates have to
come in pairs.

From the value that a text says, a snapshot can be got back: its nodes and edges are found under the
names of their fields. -/

namespace SourceOutline

/-! ## Values -/

/-- What a JSON text says. A number is known by its exact value, and the fields of an object are
    kept in order. -/
inductive JsonValue where
  | null
  | bool (b : Bool)
  | number (value : Rat)
  | text (s : String)
  | array (items : List JsonValue)
  | object (fields : List (String × JsonValue))

mutual

/-- The value that is written for a graph, or for a part of one. -/
def Json.value : Json → JsonValue
  | .null => .null
  | .number n => .number n
  | .text s => .text s
  | .array items => .array (Json.values items)
  | .object fields => .object (Json.fieldValues fields)

/-- The values of items. -/
def Json.values : List Json → List JsonValue
  | [] => []
  | item :: rest => item.value :: Json.values rest

/-- The values of fields. -/
def Json.fieldValues : List (String × Json) → List (String × JsonValue)
  | [] => []
  | (key, item) :: rest => (key, item.value) :: Json.fieldValues rest

end

/-! ## Texts in strings -/

/-- The character that an escape with one letter stands for. -/
def jsonShortEscape? (c : Char) : Option Char :=
  match c with
  | '"' => some '"'
  | '\\' => some '\\'
  | '/' => some '/'
  | 'b' => some '\x08'
  | 'f' => some '\x0c'
  | 'n' => some '\n'
  | 'r' => some '\r'
  | 't' => some '\t'
  | _ => none

/-- The character that a high and a low surrogate make together. -/
def surrogatePair? (high low : Nat) : Option Char :=
  if 0xD800 ≤ high ∧ high < 0xDC00 ∧ 0xDC00 ≤ low ∧ low < 0xE000 then
    some (Char.ofNat (0x10000 + (high - 0xD800) * 0x400 + (low - 0xDC00)))
  else none

/-- The text that the body of a string stands for. -/
def jsonText? : List Char → Option (List Char)
  | [] => some []
  | '\\' :: 'u' :: a :: b :: c :: d :: rest => do
    let unit ← hexNumber? [a, b, c, d]
    if unit < 0xD800 || 0xE000 ≤ unit then return Char.ofNat unit :: (← jsonText? rest)
    else match rest with
      | '\\' :: 'u' :: e :: f :: g :: h :: rest => do
        let low ← hexNumber? [e, f, g, h]
        return (← surrogatePair? unit low) :: (← jsonText? rest)
      | _ => none
  | '\\' :: c :: rest => do return (← jsonShortEscape? c) :: (← jsonText? rest)
  | c :: rest => if c.toNat < 0x20 || c = '\\' then none else do return c :: (← jsonText? rest)

/-! ## Words -/

/-- The number of a text of digits, of which there has to be one. -/
def jsonDigits? (digits : List Char) : Option Nat :=
  if digits.all Char.isDigit ∧ digits ≠ [] then some (Nat.ofDigitChars 10 digits 0) else none

/-- The whole part of a number: a single zero, or digits that do not start with one. -/
def jsonWhole? (digits : List Char) : Option Nat :=
  if digits.head? = some '0' ∧ digits ≠ ['0'] then none else jsonDigits? digits

/-- The exponent after the digits of a number. -/
def jsonExponent? : List Char → Option Int
  | [] => some 0
  | c :: rest =>
    if c = 'e' || c = 'E' then
      match rest with
      | '-' :: digits => (jsonDigits? digits).map fun n => -(n : Int)
      | '+' :: digits => (jsonDigits? digits).map fun n => (n : Int)
      | digits => (jsonDigits? digits).map fun n => (n : Int)
    else none

/-- A number without its sign. -/
def jsonMagnitude? (text : List Char) : Option Rat := do
  let whole ← jsonWhole? (text.takeWhile Char.isDigit)
  match text.dropWhile Char.isDigit with
  | '.' :: rest => do
    let digits := rest.takeWhile Char.isDigit
    let fraction ← jsonDigits? digits
    let exponent ← jsonExponent? (rest.dropWhile Char.isDigit)
    return ((whole : Rat) + (fraction : Rat) / 10 ^ digits.length) * 10 ^ exponent
  | rest => do
    let exponent ← jsonExponent? rest
    return (whole : Rat) * 10 ^ exponent

example : jsonMagnitude? "2.5e1".toList = some 25 := by decide +kernel

/-- The value that a word stands for. -/
def jsonWord? (text : List Char) : Option JsonValue :=
  if text = "null".toList then some .null
  else if text = "true".toList then some (.bool true)
  else if text = "false".toList then some (.bool false)
  else match text with
    | '-' :: magnitude => (jsonMagnitude? magnitude).map fun value => .number (-value)
    | magnitude => (jsonMagnitude? magnitude).map .number

/-! ## Tokens -/

/-- A token of a JSON text. The body of a string is kept as it is written. -/
inductive JsonToken where
  | word (text : List Char)
  | quoted (body : List Char)
  | mark (c : Char)

/-- What is open: an array with the items before the one that is being read, or an object with the
    fields before the one whose value is being read, and its key. -/
inductive JsonFrame where
  | array (items : List JsonValue)
  | object (fields : List (String × JsonValue)) (key : String)

/-- What came last, and so what may come next. -/
inductive JsonPlace where
  /-- A value has to come. -/
  | value
  /-- An array has been opened: its first item comes, or its end. -/
  | firstItem
  /-- An object has been opened: its first key comes, or its end. -/
  | firstKey
  /-- A key has to come after some fields. -/
  | key (fields : List (String × JsonValue))
  /-- A colon has to come after a key. -/
  | colon (fields : List (String × JsonValue)) (key : String)
  /-- A value is complete. -/
  | after (value : JsonValue)

/-- The state of reading tokens: what is open, innermost first, and what came last. -/
structure JsonParser where
  stack : List JsonFrame := []
  place : JsonPlace := .value

namespace JsonParser

/-- Begin a value with a token. -/
def begin (stack : List JsonFrame) : JsonToken → Option JsonParser
  | .word text => (jsonWord? text).map fun value => ⟨stack, .after value⟩
  | .quoted body => (jsonText? body).map fun text => ⟨stack, .after (.text (String.ofList text))⟩
  | .mark c =>
    if c = '[' then some ⟨stack, .firstItem⟩
    else if c = '\x7b' then some ⟨stack, .firstKey⟩
    else none

/-- Go on from a complete value with a mark, which parts it from the next one or closes what it is
    in. -/
def proceed (stack : List JsonFrame) (value : JsonValue) (c : Char) : Option JsonParser :=
  match stack with
  | .array items :: rest =>
    if c = ',' then some ⟨.array (items ++ [value]) :: rest, .value⟩
    else if c = ']' then some ⟨rest, .after (.array (items ++ [value]))⟩
    else none
  | .object fields key :: rest =>
    if c = ',' then some ⟨rest, .key (fields ++ [(key, value)])⟩
    else if c = '\x7d' then some ⟨rest, .after (.object (fields ++ [(key, value)]))⟩
    else none
  | [] => none

/-- Take a string as the key of a field. -/
def takeKey (stack : List JsonFrame) (fields : List (String × JsonValue)) (body : List Char) :
    Option JsonParser :=
  (jsonText? body).map fun key => ⟨stack, .colon fields (String.ofList key)⟩

/-- Take a token. -/
def take (parser : JsonParser) (token : JsonToken) : Option JsonParser :=
  match parser.place, token with
  | .value, token => begin parser.stack token
  | .firstItem, .mark ']' => some ⟨parser.stack, .after (.array [])⟩
  | .firstItem, token => begin (.array [] :: parser.stack) token
  | .firstKey, .mark '\x7d' => some ⟨parser.stack, .after (.object [])⟩
  | .firstKey, .quoted body => takeKey parser.stack [] body
  | .key fields, .quoted body => takeKey parser.stack fields body
  | .colon fields key, .mark ':' => some ⟨.object fields key :: parser.stack, .value⟩
  | .after value, .mark c => proceed parser.stack value c
  | _, _ => none

/-- The value that has been read when all tokens have come. -/
def finish (parser : JsonParser) : Option JsonValue :=
  match parser with
  | ⟨[], .after value⟩ => some value
  | _ => none

end JsonParser

/-! ## Characters -/

/-- What a reader is in the middle of, with what it has read of it. -/
inductive JsonMode where
  | between
  | word (done : List Char)
  | quoted (done : List Char)
  /-- In a string, after a backslash. -/
  | escaped (done : List Char)

/-- The state of reading characters. -/
structure JsonReading where
  parser : JsonParser := {}
  mode : JsonMode := .between

/-- Whether a character can stand in a word. -/
def isJsonWordChar (c : Char) : Bool :=
  c.isAlphanum || c == '-' || c == '+' || c == '.'

/-- Whether a character only stands between tokens. -/
def isJsonBlank (c : Char) : Bool :=
  c == ' ' || c == '\n' || c == '\t' || c == '\r'

namespace JsonReading

/-- Read a character that stands outside of words and strings. -/
def outside (parser : JsonParser) (c : Char) : Option JsonReading :=
  if c = '"' then some ⟨parser, .quoted []⟩
  else if isJsonWordChar c then some ⟨parser, .word [c]⟩
  else if isJsonBlank c then some ⟨parser, .between⟩
  else (parser.take (.mark c)).map fun parser => ⟨parser, .between⟩

/-- Read a character. -/
def step (reading : JsonReading) (c : Char) : Option JsonReading :=
  match reading.mode with
  | .between => outside reading.parser c
  | .word done =>
    if isJsonWordChar c then some ⟨reading.parser, .word (done ++ [c])⟩
    else (reading.parser.take (.word done)).bind (outside · c)
  | .quoted done =>
    if c = '"' then
      (reading.parser.take (.quoted done)).map fun parser => ⟨parser, .between⟩
    else if c = '\\' then some ⟨reading.parser, .escaped done⟩
    else some ⟨reading.parser, .quoted (done ++ [c])⟩
  | .escaped done => some ⟨reading.parser, .quoted (done ++ ['\\', c])⟩

/-- The value at the end of a text. A string has to be closed. -/
def finish (reading : JsonReading) : Option JsonValue :=
  match reading.mode with
  | .between => reading.parser.finish
  | .word done => (reading.parser.take (.word done)).bind JsonParser.finish
  | .quoted _ | .escaped _ => none

/-- Read a text to its end. -/
def read (reading : JsonReading) (text : List Char) : Option JsonValue :=
  (text.foldlM step reading).bind finish

end JsonReading

/-- The value that a JSON text says, if it is one. -/
def readJson (text : String) : Option JsonValue :=
  ({} : JsonReading).read text.toList

example : (readJson "[1, 2,]").isNone ∧ (readJson "[01]").isNone ∧
    (readJson "\"\\ud83d\"").isNone := by
  decide +kernel

/-! ## Graphs -/

namespace JsonValue

/-- The value of the field of an object with a name. -/
def field? (name : String) : JsonValue → Option JsonValue
  | object fields => fields.lookup name
  | _ => none

/-- The text that a value is. -/
def text? : JsonValue → Option String
  | text s => some s
  | _ => none

/-- The whole number that a value is. -/
def whole? : JsonValue → Option Int
  | number value => if value.den = 1 then some value.num else none
  | _ => none

/-- The items that a value has. -/
def items? : JsonValue → Option (List JsonValue)
  | array items => some items
  | _ => none

end JsonValue

/-- The node that a value tells about. -/
def Node.ofJson? (value : JsonValue) : Option Node := do
  let id ← (← value.field? "id").text?
  let label ← (← value.field? "label").text?
  let kind ← (← value.field? "kind").text?
  let sourcePath ← (← value.field? "sourcePath").text?
  let startLine ← (← value.field? "startLine").whole?
  let parentId ← match ← value.field? "parentId" with
    | .null => some none
    | parent => parent.text?.map some
  let endLine ← match value.field? "endLine" with
    | none => some none
    | some last => last.whole?.map some
  let snippet ← match value.field? "snippet" with
    | none => some none
    | some lines => lines.text?.map some
  return { id, label, kind, sourcePath, startLine, parentId, endLine, snippet }

/-- The edge that a value tells about. -/
def Edge.ofJson? (value : JsonValue) : Option Edge := do
  let source ← (← value.field? "source").text?
  let target ← (← value.field? "target").text?
  let relation ← (← value.field? "relationship").text?
  return { source, target, relation }

/-- The snapshot that a value tells about. -/
def Snapshot.ofJson? (value : JsonValue) : Option Snapshot := do
  let nodes ← (← (← value.field? "nodes").items?).mapM Node.ofJson?
  let edges ← (← (← value.field? "edges").items?).mapM Edge.ofJson?
  return { nodes, edges }

end SourceOutline
