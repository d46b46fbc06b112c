import SourceOutline.Graph.Snapshot
import SourceOutline.Text.Split

set_option autoImplicit false

/-! # Reading DOT texts

A DOT text is cut into tokens first. Inside quotes a backslash always belongs to the character after
it, and the first quote that is not taken by a backslash ends the string; outside of quotes words,
arrows and single symbols stand between blanks. Of the tokens a directed graph is read: its name and
its statements, each with a semicolon after it.

A statement may tell about a node or an edge of a repository. Its texts are got back by dropping the
backslashes of escaped characters; the rows of a label are parted where a backslash stands before
the letter n. -/

namespace SourceOutline

/-! ## Tokens -/

/-- A token of a DOT text. The body of a quoted string is kept as it is written. -/
inductive DotToken where
  | word (text : List Char)
  | quoted (body : List Char)
  | arrow
  | symbol (c : Char)
deriving Repr, DecidableEq

/-- What a scan for tokens is in the middle of, with what it has read of it. -/
inductive DotMode where
  | between
  | word (done : List Char)
  | dash
  | quoted (done : List Char)
  /-- In a quoted string, after a backslash. -/
  | escaped (done : List Char)
deriving Repr, DecidableEq

/-- The state of a scan for tokens: those that are complete, latest first, and what comes. -/
structure DotScan where
  tokens : List DotToken := []
  mode : DotMode := .between
deriving Repr, DecidableEq

/-- Whether a character can stand in a word. -/
def isDotWordChar (c : Char) : Bool :=
  c.isAlphanum || c == '_'

/-- Whether a character only stands between tokens. -/
def isDotBlank (c : Char) : Bool :=
  c == ' ' || c == '\n' || c == '\t' || c == '\r'

namespace DotScan

/-- Read a character that stands outside of words and strings. -/
def outside (tokens : List DotToken) (c : Char) : DotScan :=
  if c = '"' then ⟨tokens, .quoted []⟩
  else if c = '-' then ⟨tokens, .dash⟩
  else if isDotWordChar c then ⟨tokens, .word [c]⟩
  else if isDotBlank c then ⟨tokens, .between⟩
  else ⟨.symbol c :: tokens, .between⟩

/-- Read a character. -/
def step (scan : DotScan) (c : Char) : DotScan :=
  match scan.mode with
  | .between => outside scan.tokens c
  | .word done =>
    if isDotWordChar c then ⟨scan.tokens, .word (done ++ [c])⟩
    else outside (.word done :: scan.tokens) c
  | .dash =>
    if c = '>' then ⟨.arrow :: scan.tokens, .between⟩ else outside (.symbol '-' :: scan.tokens) c
  | .quoted done =>
    if c = '"' then ⟨.quoted done :: scan.tokens, .between⟩
    else if c = '\\' then ⟨scan.tokens, .escaped done⟩
    else ⟨scan.tokens, .quoted (done ++ [c])⟩
  | .escaped done => ⟨scan.tokens, .quoted (done ++ ['\\', c])⟩

/-- The tokens at the end of a text. A string has to be closed. -/
def finish (scan : DotScan) : Option (List DotToken) :=
  match scan.mode with
  | .between => some scan.tokens.reverse
  | .word done => some (.word done :: scan.tokens).reverse
  | .dash => some (.symbol '-' :: scan.tokens).reverse
  | .quoted _ | .escaped _ => none

/-- Read a text. -/
def run (scan : DotScan) (text : List Char) : DotScan :=
  text.foldl step scan

end DotScan

/-- The tokens of a DOT text. -/
def dotTokens (text : List Char) : Option (List DotToken) :=
  (({} : DotScan).run text).finish

/-! ## Statements -/

/-- An attribute: its name and its value. -/
abbrev DotAttribute := List Char × DotToken

/-- A statement of a directed graph. -/
inductive DotStatement where
  | assign (name : List Char) (value : DotToken)
  | node (id : List Char) (attributes : List DotAttribute)
  | edge (source target : List Char) (attributes : List DotAttribute)
deriving Repr, DecidableEq

/-- A directed graph as it is written. -/
structure DotGraph where
  name : List Char
  statements : List DotStatement
deriving Repr, DecidableEq

/-- The attributes up to the bracket that closes them, after which nothing comes. -/
def readDotAttributes : List DotToken → Option (List DotAttribute)
  | [.word name, .symbol '=', value, .symbol ']'] => some [(name, value)]
  | .word name :: .symbol '=' :: value :: .symbol ',' :: rest =>
    (readDotAttributes rest).map ((name, value) :: ·)
  | _ => none

/-- The statement that the tokens before a semicolon make. -/
def readDotStatement : List DotToken → Option DotStatement
  | [.word name, .symbol '=', value] => some (.assign name value)
  | .quoted id :: .symbol '[' :: rest => (readDotAttributes rest).map (.node id)
  | .quoted source :: .arrow :: .quoted target :: .symbol '[' :: rest =>
    (readDotAttributes rest).map (.edge source target)
  | _ => none

/-- The statements up to the brace that closes the graph, after which nothing comes. The tokens of
    the statement that is being read are `current`. -/
def readDotStatements (current : List DotToken) : List DotToken → Option (List DotStatement)
  | [] => none
  | token :: rest =>
    if token = .symbol ';' then do
      let statement ← readDotStatement current
      let others ← readDotStatements [] rest
      return statement :: others
    else if token = .symbol '\x7d' ∧ rest = [] then
      if current = [] then some [] else none
    else readDotStatements (current ++ [token]) rest

/-- The directed graph that a text is. -/
def readDot (text : String) : Option DotGraph := do
  match ← dotTokens text.toList with
  | .word keyword :: .word name :: .symbol '\x7b' :: rest =>
    if keyword = "digraph".toList then
      return { name, statements := ← readDotStatements [] rest }
    else none
  | _ => none

/-! ## Texts and rows -/

/-- The text whose escaped form is the body of a string. -/
def unescapeDot : List Char → List Char
  | [] => []
  | '\\' :: c :: rest => c :: unescapeDot rest
  | c :: rest => c :: unescapeDot rest

/-- The rows of the body of a label, which a backslash before the letter n parts. -/
def dotRowsOf : List Char → List (List Char)
  | [] => [[]]
  | ['\\'] => [['\\']]
  | '\\' :: c :: rest =>
    if c = 'n' then [] :: dotRowsOf rest else consPiece '\\' (consPiece c (dotRowsOf rest))
  | c :: rest => consPiece c (dotRowsOf rest)

/-- The natural number that decimal digits make. -/
def dotNatural? (digits : List Char) : Option Nat :=
  if digits.all Char.isDigit ∧ digits ≠ [] then some (Nat.ofDigitChars 10 digits 0) else none

/-- The whole number that a text is; a negative one has a dash in front of its digits. -/
def dotWhole? : List Char → Option Int
  | '-' :: digits => (dotNatural? digits).map fun n => -(n : Int)
  | digits => (dotNatural? digits).map fun n => (n : Int)

/-- The lines from which to which a text says that a node goes. The first may be negative, so the
    dash between them is not the first character. -/
def dotRange? : List Char → Option (Int × Int)
  | [] => none
  | c :: rest => do
    let start ← dotWhole? (c :: rest.takeWhile (· != '-'))
    let last ← dotWhole? ((rest.dropWhile (· != '-')).drop 1)
    return (start, last)

/-! ## Nodes and edges -/

/-- What a statement tells about a node. -/
structure DotNode where
  id : String
  kind : String
  label : String
  range : Option (Int × Int)
deriving Repr, DecidableEq

/-- The body of the quoted value of the attribute `label`. -/
def dotLabel? (attributes : List DotAttribute) : Option (List Char) :=
  match attributes.lookup "label".toList with
  | some (.quoted body) => some body
  | _ => none

/-- The text that the body of a string stands for. -/
def dotContent (body : List Char) : String :=
  String.ofList (unescapeDot body)

/-- The node that a statement tells about. -/
def DotStatement.node? : DotStatement → Option DotNode
  | .node id attributes => do
    match dotRowsOf (← dotLabel? attributes) with
    | [kind, label] => some ⟨dotContent id, dotContent kind, dotContent label, none⟩
    | [kind, label, range] => do
      let range ← dotRange? (unescapeDot range)
      some ⟨dotContent id, dotContent kind, dotContent label, some range⟩
    | _ => none
  | _ => none

/-- The edge that a statement tells about. -/
def DotStatement.edge? : DotStatement → Option Edge
  | .edge source target attributes => do
    let label ← dotLabel? attributes
    return ⟨dotContent source, dotContent target, dotContent label⟩
  | _ => none

end SourceOutline
