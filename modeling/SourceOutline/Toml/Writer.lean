import SourceOutline.Toml.Layout

set_option autoImplicit false

/-! # Writing TOML

A table is written with its plain values first, then its arrays of tables, and then its subtables
as sections, level by level: all sections at one depth come before those below them. Only a table
that is empty or has plain values or arrays of tables of its own gets a header. -/

namespace SourceOutline.Toml

/-! ## Strings -/

/-- Replace every occurrence of two characters by others, from left to right. -/
def replacePair (a b : Char) (replacement : List Char) : List Char → List Char
  | c :: d :: rest =>
    if c = a && d = b then replacement ++ replacePair a b replacement rest
    else c :: replacePair a b replacement (d :: rest)
  | text => text

/-- The pieces of a text between the occurrences of a backslash with an `x`. -/
def splitAtHexEscapes : List Char → List (List Char)
  | [] => [[]]
  | '\\' :: 'x' :: rest => [] :: splitAtHexEscapes rest
  | c :: rest =>
    match splitAtHexEscapes rest with
    | [] => [[c]]
    | piece :: pieces => (c :: piece) :: pieces

/-- How many backslashes a text ends in. -/
def trailingBackslashes (text : List Char) : Nat :=
  (text.reverse.takeWhile (· = '\\')).length

/-- What joins a piece to the next: a lone backslash before an `x` makes a four-digit escape of it,
    and otherwise the `x` stays. A backslash that the text starts with is not counted. -/
def pieceJoiner (piece : List Char) : List Char :=
  let trailing := trailingBackslashes piece
  if trailing = 0 || min trailing (piece.length - 1) % 2 = 1 then ['x'] else ['u', '0', '0']

/-- Join the pieces of a quoted text with escapes that TOML has, given the first piece. Whenever two
    pieces are joined, doubled backslashes in the first become single. -/
def joinPieces (piece : List Char) : List (List Char) → Except WriteFault (List Char)
  | [] => .ok piece
  | [next] =>
    if piece.isEmpty then .error .brokenEscape
    else
      let piece := replacePair '\\' '\\' ['\\'] piece
      .ok (piece ++ pieceJoiner piece ++ next)
  | next :: after :: rest =>
    if piece.isEmpty then
      let piece := replacePair '\\' '\\' ['\\'] next
      joinPieces (piece ++ pieceJoiner piece ++ after) rest
    else
      let piece := replacePair '\\' '\\' ['\\'] piece
      joinPieces (piece ++ pieceJoiner piece ++ next) (after :: rest)

/-- A text in double quotes, made from its quoted form. -/
def writeText (text : List Char) : Except WriteFault (List Char) := do
  let quotedText := quoted text
  let inner := (quotedText.drop 1).dropLast
  let inner := if quotedText.head? = some '\'' then
      (replacePair '\\' '\'' ['\''] inner).flatMap fun c => if c = '"' then ['\\', '"'] else [c]
    else inner
  match splitAtHexEscapes inner with
  | [] => return ['"', '"']
  | piece :: pieces => return '"' :: (← joinPieces piece pieces) ++ ['"']

/-! ## Values -/

/-- A floating-point number, with no zero in front of the digits of its exponent. -/
def writeFloat (x : Binary64) : List Char :=
  dropExponentZero x.render.toList
where
  /-- Drop a zero right after an exponent and its sign. -/
  dropExponentZero : List Char → List Char
    | 'e' :: '+' :: '0' :: rest => 'e' :: '+' :: rest
    | 'e' :: '-' :: '0' :: rest => 'e' :: '-' :: rest
    | c :: rest => c :: dropExponentZero rest
    | [] => []

/-- A moment, with a `Z` for universal time. -/
def writeMoment : Moment → List Char
  | .dateTime date clock (some 0) => (Moment.dateTime date clock none).text 'T' ++ ['Z']
  | moment => moment.text 'T'

mutual

/-- A value on one line; of a table inside an array only the keys are written. -/
def writeValue : Value → Except WriteFault (List Char)
  | .null => writeText "None".toList
  | .bool b => .ok (if b then "true" else "false").toList
  | .int n => if hasText n then .ok (toString n).toList else .error .longInteger
  | .float x => .ok (writeFloat x)
  | .text s => writeText s.toList
  | .moment m => .ok (writeMoment m)
  | .list items _ => do return '[' :: (← writeItems items) ++ [']']
  | .table fields _ => do return '[' :: (← writeKeys fields) ++ [']']

/-- The items of an array. -/
def writeItems : List Value → Except WriteFault (List Char)
  | [] => .ok []
  | item :: rest => do return ' ' :: (← writeValue item) ++ ',' :: (← writeItems rest)

/-- The keys of a table as items. -/
def writeKeys : List (String × Value) → Except WriteFault (List Char)
  | [] => .ok []
  | (key, _) :: rest => do return ' ' :: (← writeText key.toList) ++ ',' :: (← writeKeys rest)

end

/-! ## Keys -/

/-- Whether a key is written without quotes; a line feed at its end does not count. -/
def isBareKey (key : List Char) : Bool :=
  let stem := if key.getLast? = some '\n' then key.dropLast else key
  !stem.isEmpty && stem.all fun c => c.isAlphanum || c = '_' || c = '-'

/-- A key as it is written. -/
def writeKey (key : String) : Except WriteFault (List Char) :=
  if isBareKey key.toList then .ok key.toList else writeText key.toList

/-- The written path of a key below another. -/
def dottedKey (above key : List Char) : List Char :=
  if above.isEmpty then key else above ++ '.' :: key

/-! ## Tables -/

/-- The entries of a table that is to be written: the texts of its keys, each with the value that is
    found under that text. A key that is no text may have none. -/
abbrev Entries := List (String × Option Value)

/-- The entries of a table whose keys are texts. -/
def entriesOf (fields : List (String × Value)) : Entries :=
  fields.map fun (key, value) => (key, some value)

/-- The tables that are waiting for their sections, under their written keys. -/
abbrev Waiting := List (List Char × Entries)

/-- Put a table under a written key: an old one keeps its place, a new one comes last. -/
def setWaiting (key : List Char) (entries : Entries) : Waiting → Waiting
  | [] => [(key, entries)]
  | (k, old) :: rest =>
    if k = key then (k, entries) :: rest else (k, old) :: setWaiting key entries rest

/-- What is written of a table: its plain values, its arrays of tables, and its subtables. -/
structure Written where
  plain : List Char := []
  arrays : List Char := []
  subtables : Waiting := []

/-- The text of a table without its subtables. -/
def Written.text (written : Written) : List Char :=
  written.plain ++ written.arrays

/-- Add a plain value under its written key. -/
def Written.addPlain (written : Written) (key text : List Char) : Written :=
  { written with plain := written.plain ++ key ++ " = ".toList ++ text ++ ['\n'] }

/-- Whether an array is written as an array of tables. -/
def holdsTable (items : List Value) : Bool :=
  items.any fun
    | .table _ _ => true
    | _ => false

/-- The subtables of sections, under their written paths. -/
def addSubtables (path : List Char) (subtables : Waiting) (known : Waiting) : Waiting :=
  subtables.foldl (fun known (key, entries) => setWaiting (path ++ '.' :: key) entries known) known

/-- The fault of an item among tables that is none; an empty text or list is passed over. -/
def itemFault? : Value → Except WriteFault Unit
  | .text s =>
    match s.toList with
    | [] => .ok ()
    | c :: _ => do
      let _ ← writeKey (String.singleton c)
      throw .textAmongTables
  | .list [] _ => .ok ()
  | .list (item :: _) _ => do
    let _ ← writeKey item.shown
    throw .listAmongTables
  | .table _ _ => .ok ()
  | value => .error (.valueAmongTables value.typeName)

mutual

/-- What is written of the entries of the table at a path, after what is written of those before.
    The budget bounds how deep arrays of tables nest. -/
def writeEntries (budget : Nat) (path : List Char) (written : Written) :
    Entries → Except WriteFault Written
  | [] => .ok written
  | (key, value) :: rest => do
    let quotedKey ← writeKey key
    let written ← match value with
      | none => throw (.strayKey key)
      | some (.table fields _) =>
        pure { written with
          subtables := setWaiting quotedKey (entriesOf fields) written.subtables }
      | some (.list items fixed) =>
        if holdsTable items then do
          let text ← writeElements budget (dottedKey path quotedKey) items
          pure { written with arrays := written.arrays ++ text }
        else do
          let text ← writeValue (.list items fixed)
          pure (written.addPlain quotedKey text)
      | some .null => pure written
      | some value => do
        let text ← writeValue value
        pure (written.addPlain quotedKey text)
    writeEntries budget path written rest
termination_by entries => (budget, 2, entries.length)

/-- The elements of the array of tables at a path. -/
def writeElements (budget : Nat) (path : List Char) : List Value → Except WriteFault (List Char)
  | [] => .ok []
  | item :: rest => do
    itemFault? item
    let header := "[[".toList ++ path ++ "]]\n".toList
    let text ← match budget, item with
      | budget + 1, .table fields _ => do
        let written ← writeEntries budget path {} (entriesOf fields)
        let below ← writeElementLevels budget path written.subtables
        let own := written.text
        pure (if own.head? = some '[' then header ++ '\n' :: own ++ below
          else header ++ own ++ '\n' :: below)
      | _, _ => pure (header ++ ['\n'])
    return text ++ (← writeElements budget path rest)
termination_by items => (budget, 1, items.length)

/-- The sections below an element of the array of tables at a path, level by level. -/
def writeElementLevels (budget : Nat) (path : List Char) (level : Waiting) :
    Except WriteFault (List Char) :=
  match budget, level with
  | _, [] => .ok []
  | 0, _ => .ok []
  | budget + 1, level => do
    let (text, next) ← writeElementLevel budget path [] level
    return text ++ (← writeElementLevels budget path next)
termination_by (budget, 0, 0)

/-- One level of the sections below an element, and the subtables that make up the next. -/
def writeElementLevel (budget : Nat) (path : List Char) (next : Waiting) :
    Waiting → Except WriteFault (List Char × Waiting)
  | [] => .ok ([], next)
  | (key, entries) :: rest => do
    let written ← writeEntries budget (path ++ '.' :: key) {} entries
    let text := written.text
    let shown := if text.isEmpty then []
      else '[' :: path ++ '.' :: key ++ "]\n".toList ++ text
    let next := addSubtables key written.subtables next
    let (others, next) ← writeElementLevel budget path next rest
    return (shown ++ others, next)
termination_by level => (budget, 3, level.length)

end

/-- Write one level of sections after a text, and give the subtables that make up the next. -/
def writeLevel (budget : Nat) (text : List Char) (next : Waiting) :
    Waiting → Except WriteFault (List Char × Waiting)
  | [] => .ok (text, next)
  | (path, entries) :: rest => do
    let written ← writeEntries budget path {} entries
    let own := written.text
    let text := if !own.isEmpty || written.subtables.isEmpty then
        text ++ sectionBreak text ++ '[' :: path ++ "]\n".toList ++ own
      else text
    writeLevel budget text (addSubtables path written.subtables next) rest

/-- Write sections after a text, level by level. -/
def writeLevels (nesting : Nat) : Nat → List Char → Waiting → Except WriteFault (List Char)
  | _, text, [] => .ok text
  | 0, text, _ => .ok text
  | budget + 1, text, level => do
    let (text, next) ← writeLevel nesting text [] level
    writeLevels nesting budget text next

/-- The TOML document of a table. The entries of one of its subtables are given apart. -/
def write (fields : List (String × Value)) (key : String) (entries : Entries) :
    Except WriteFault (List Char) := do
  let nesting := 2 * depthOfFields fields + 2
  let written ← writeEntries nesting [] {} (entriesOf fields)
  writeLevels nesting nesting written.text
    (setWaiting (← writeKey key) entries written.subtables)

end SourceOutline.Toml
