import SourceOutline.Text.Blank
import SourceOutline.Text.Columns

set_option autoImplicit false

/-! # Rows of a terminal

A text is laid out word by word. A word that does not fit after the others starts a row, and one
that is wider than a row is cut. The blanks after a word stay on its row, and those that stand out
over its end are not shown. The rows lose nothing: joined, they give the text back
(`flatten_wrap`). -/

namespace SourceOutline.Terminal

/-- How many columns a terminal has. -/
def terminalColumns : Nat := 80

/-! ## Words -/

/-- A text cut before every word that follows a blank. -/
def cutBeforeWords : List Char → List (List Char)
  | [] => []
  | c :: rest =>
    if isBlank c && rest.head?.any (!isBlank ·) then [c] :: cutBeforeWords rest
    else consPiece c (cutBeforeWords rest)

/-- The words of a text, each with the blanks after it, the first also with those before it. -/
def paddedWords (text : List Char) : List (List Char) :=
  match cutBeforeWords text with
  | first :: second :: rest =>
    if first.all isBlank then (first ++ second) :: rest else first :: second :: rest
  | words => words

/-- The pieces of a word that is too wide for a row, when some columns of the first row are
    used. -/
def cutWord (width used : Nat) : List Char → List (List Char)
  | [] => [[]]
  | c :: rest =>
    if used + columnsOf c ≤ width then consPiece c (cutWord width (used + columnsOf c) rest)
    else [] :: consPiece c (cutWord width (columnsOf c) rest)

/-! ## Rows -/

/-- Put a word after rows, the last of which comes first. -/
def placeWord (width : Nat) (word : List Char) : List (List Char) → List (List Char)
  | [] => [word]
  | row :: earlier =>
    let columns := textColumns (trimRight word)
    if textColumns row + columns ≤ width then (row ++ word) :: earlier
    else
      let pieces := if columns ≤ width then [word] else cutWord width 0 word
      pieces.reverse ++ if row.isEmpty then earlier else row :: earlier

/-- The rows of a text without line feeds and tabs. -/
def wrap (width : Nat) (text : List Char) : List (List Char) :=
  ((paddedWords text).foldl (fun rows word => placeWord width word rows) [[]]).reverse

/-! ## Nothing is lost -/

theorem flatten_consPiece (c : Char) (pieces : List (List Char)) :
    (consPiece c pieces).flatten = c :: pieces.flatten := by
  cases pieces <;> simp [consPiece]

theorem flatten_paddedWords (text : List Char) : (paddedWords text).flatten = text := by
  have h : (cutBeforeWords text).flatten = text := by
    induction text with
    | nil => rfl
    | cons c rest ih =>
      simp only [cutBeforeWords]
      split <;> simp [flatten_consPiece, ih]
  unfold paddedWords
  split
  · rename_i first second rest hs
    rw [hs] at h
    split <;> simpa using h
  · exact h

theorem flatten_cutWord (width used : Nat) (word : List Char) :
    (cutWord width used word).flatten = word := by
  induction word generalizing used with
  | nil => rfl
  | cons c rest ih =>
    simp only [cutWord]
    split <;> simp [flatten_consPiece, ih]

theorem flatten_placeWord (width : Nat) (word : List Char) (rows : List (List Char)) :
    (placeWord width word rows).reverse.flatten = rows.reverse.flatten ++ word := by
  cases rows with
  | nil => simp [placeWord]
  | cons row earlier =>
    simp only [placeWord]
    split
    · simp
    · split <;> split <;> simp_all [flatten_cutWord]

/-- Joined, the rows of a text give the text back. -/
theorem flatten_wrap (width : Nat) (text : List Char) : (wrap width text).flatten = text := by
  have h : ∀ words rows : List (List Char),
      (words.foldl (fun rows word => placeWord width word rows) rows).reverse.flatten
        = rows.reverse.flatten ++ words.flatten := by
    intro words
    induction words with
    | nil => simp
    | cons word rest ih =>
      intro rows
      rw [List.foldl_cons, ih, flatten_placeWord]
      simp
  unfold wrap
  rw [h, flatten_paddedWords]
  simp

/-! ## What is shown -/

/-- The characters at the start of a row for which columns are left. A space stands in place of one
    that is cut in two. -/
def takeColumns (left : Nat) : List Char → List Char
  | [] => []
  | c :: rest =>
    if columnsOf c = 0 then c :: takeColumns left rest
    else if left = 0 then []
    else if left < columnsOf c then [' ']
    else c :: takeColumns (left - columnsOf c) rest

/-- The part of a row that is shown. -/
def shownPart (width : Nat) (row : List Char) : List Char :=
  let kept := row.take (max (trimRight row).length width)
  if textColumns kept ≤ width then kept else takeColumns width kept

/-- A row with the position of its first character. -/
structure Row where
  start : Nat
  text : List Char
deriving Repr, DecidableEq

/-- What is shown of a row of a terminal. -/
def Row.shown (row : Row) : List Char :=
  shownPart terminalColumns row.text

/-- Number the characters of rows that follow each other. -/
def placedRows (start : Nat) : List (List Char) → List Row
  | [] => []
  | text :: rest => { start, text } :: placedRows (start + text.length) rest

/-- Number the characters of the rows of lines, one for every line feed between them. -/
def rowsFrom (start : Nat) : List (List Char) → List Row
  | [] => []
  | line :: rest =>
    placedRows start (wrap terminalColumns line) ++ rowsFrom (start + line.length + 1) rest

/-! ## Texts with tabs -/

/-- The lines of a text, with spaces in place of their tabs. -/
def withoutTabs (text : List Char) : List (List Char) :=
  (piecesBetween '\n' text).map expandTabs

/-- Where a position in a text is once the tabs before it are expanded. -/
def expandedPosition (text : List Char) (position : Nat) : Nat :=
  (List.intercalate ['\n'] (withoutTabs (text.take position))).length

/-- The rows of a text. -/
def rowsOf (text : List Char) : List Row :=
  rowsFrom 0 (withoutTabs text)

/-- Whether something of the stretch between two positions of a text is shown. An empty stretch
    counts as shown where the text is not divided. -/
def isShown (text : List Char) (start stop : Nat) : Bool :=
  match text.contains '\t', rowsOf text with
  | false, [row] => start < row.shown.length || row.shown.length = row.text.length
  | _, rows =>
    let start := expandedPosition text start
    let stop := expandedPosition text stop
    rows.any fun row => max start row.start < min stop (row.start + row.shown.length)

end SourceOutline.Terminal
