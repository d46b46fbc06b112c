import SourceOutline.Toml.Draft
import SourceOutline.Toml.Scalar

set_option autoImplicit false

/-! # Reading TOML

A TOML document is a sequence of headers and of keys with their values, each on a line of its own.
Values nest in arrays and inline tables; the nesting is bounded by the length of the text, which
serves as the budget of the readers. There may be a limit on the digits of integers, which TOML
itself does not set. -/

namespace SourceOutline.Toml

/-! ## Values -/

/-- The text after blanks, line breaks and comments. -/
def skipTrivia (inComment : Bool) : List Char → Option (List Char)
  | [] => some []
  | '\n' :: rest => skipTrivia false rest
  | c :: rest =>
    if inComment then if isForbidden c then none else skipTrivia true rest
    else if c = ' ' || c = '\t' then skipTrivia false rest
    else if c = '#' then skipTrivia true rest
    else some (c :: rest)

mutual

/-- A value. -/
def readValue? (limit : Option Nat) (budget : Nat) (text : List Char) :
    Option (Value × List Char) :=
  match budget with
  | 0 => none
  | budget + 1 =>
    match text with
    | 't' :: 'r' :: 'u' :: 'e' :: rest => some (.bool true, rest)
    | 'f' :: 'a' :: 'l' :: 's' :: 'e' :: rest => some (.bool false, rest)
    | '[' :: rest => do
      let (items, rest) ← readItems? limit budget rest
      return (.list items, rest)
    | '\x7b' :: rest =>
      match skipBlanks rest with
      | '\x7d' :: rest => some (.table [] true, rest)
      | rest => do
        let (fields, rest) ← readFields? limit budget [] rest
        return (.table (finishFields fields) true, rest)
    | '"' :: _ | '\'' :: _ => (readString? text).map fun (s, rest) => (.text s, rest)
    | _ =>
      match readMoment? text with
      | some (moment, rest) => some (.moment moment, rest)
      | none => readNumber? limit text

/-- The items of an array up to its closing bracket. -/
def readItems? (limit : Option Nat) (budget : Nat) (text : List Char) :
    Option (List Value × List Char) :=
  match budget with
  | 0 => none
  | budget + 1 => do
    match ← skipTrivia false text with
    | ']' :: rest => some ([], rest)
    | start => do
      let (item, rest) ← readValue? limit budget start
      match ← skipTrivia false rest with
      | ',' :: rest => do
        let (items, rest) ← readItems? limit budget rest
        return (item :: items, rest)
      | ']' :: rest => some ([item], rest)
      | _ => none

/-- The fields of an inline table up to its closing brace, after those read so far. -/
def readFields? (limit : Option Nat) (budget : Nat) (fields : Fields) (text : List Char) :
    Option (Fields × List Char) :=
  match budget with
  | 0 => none
  | budget + 1 => do
    match ← readKey? budget (skipBlanks text) with
    | (key, '=' :: rest) => do
      let (v, rest) ← readValue? limit budget (skipBlanks rest)
      let fields ← assign 0 v key fields
      match skipBlanks rest with
      | ',' :: rest => readFields? limit budget fields rest
      | '\x7d' :: rest => some (fields, rest)
      | _ => none
    | _ => none

end

/-! ## Documents -/

/-- What has been read of a document: its tables, the header of the section being read, and how many
    headers there have been. -/
structure Document where
  root : Fields := []
  header : List String := []
  sectionNumber : Nat := 0

/-- Open the table of a header. -/
def Document.openSection (document : Document) (openLast : String → Fields → Option Fields)
    (header : List String) : Option Document := do
  let key ← header.getLast?
  let root ← within (openLast key) header.dropLast document.root
  return { root, header, sectionNumber := document.sectionNumber + 1 }

/-- Give a value to a key of the section being read. -/
def Document.set (document : Document) (key : List String) (v : Value) : Option Document := do
  let root ← within (assign document.sectionNumber v key) document.header document.root
  return { document with root }

/-- The text after the comment that a line ends in. -/
def endOfLine? (text : List Char) : Option (List Char) :=
  match skipBlanks text with
  | [] => some []
  | '\n' :: rest => some rest
  | '#' :: rest =>
    let comment := rest.takeWhile (· != '\n')
    if comment.any isForbidden then none else some ((rest.dropWhile (· != '\n')).drop 1)
  | _ => none

/-- A header or a key with its value, and the text after it on the line. -/
def readStatement? (limit : Option Nat) (budget : Nat) (document : Document)
    (text : List Char) : Option (Document × List Char) :=
  match text with
  | '[' :: '[' :: rest => do
    match ← readKey? budget (skipBlanks rest) with
    | (header, ']' :: ']' :: rest) => return (← document.openSection openElement header, rest)
    | _ => none
  | '[' :: rest => do
    match ← readKey? budget (skipBlanks rest) with
    | (header, ']' :: rest) => return (← document.openSection openTable header, rest)
    | _ => none
  | _ => do
    match ← readKey? budget text with
    | (key, '=' :: rest) => do
      let (v, rest) ← readValue? limit budget (skipBlanks rest)
      return (← document.set key v, rest)
    | _ => none

/-- Read lines to the end of a text. The budget bounds both the number of lines and the nesting of
    what stands on each. -/
def readLines? (limit : Option Nat) (nesting : Nat) : Nat → Document → List Char → Option Document
  | 0, _, _ => none
  | budget + 1, document, text =>
    match skipBlanks text with
    | [] => some document
    | '\n' :: rest => readLines? limit nesting budget document rest
    | '#' :: rest => do readLines? limit nesting budget document (← endOfLine? ('#' :: rest))
    | start => do
      let (document, rest) ← readStatement? limit nesting document start
      readLines? limit nesting budget document (← endOfLine? rest)

/-- The table that a TOML document stands for, unless it is not well-formed. -/
def read? (limit : Option Nat) (text : List Char) : Option (List (String × Value)) := do
  let budget := 2 * text.length + 2
  let document ← readLines? limit budget budget {} text
  return finishFields document.root

end SourceOutline.Toml
