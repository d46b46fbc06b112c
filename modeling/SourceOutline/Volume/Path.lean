import SourceOutline.Text.Split

set_option autoImplicit false

/-! # Paths

A path is a way through folders: where it starts and the steps it takes. Written paths are taken
lexically, with repeated slashes and single dots dropped and double dots kept. A path that starts
with exactly two slashes is told apart from one that starts with a single slash, though both
start at the top. -/

namespace SourceOutline

/-! ## Names and steps -/

/-- Whether a text can name an entry of a folder. -/
def isNameText (text : String) : Bool :=
  text != "" && text != "." && text != ".." && !text.toList.contains '/'

/-- The name of an entry of a folder. -/
structure Name where
  text : String
  valid : isNameText text = true
deriving Repr, DecidableEq

/-- One step of a path: stay, go to the enclosing folder, or go to an entry. -/
inductive Step where
  | here
  | up
  | down (name : Name)
deriving Repr, DecidableEq

/-- The step that a text between two slashes stands for. -/
def Step.ofText (text : String) : Step :=
  if text = ".." then .up
  else if h : isNameText text = true then .down ⟨text, h⟩
  else .here

/-- The text of a step. -/
def Step.text : Step → String
  | here => "."
  | up => ".."
  | down name => name.text

/-- The steps of a written path, in order. -/
def stepsOfText (text : String) : List Step :=
  (piecesBetween '/' text.toList).map fun piece => Step.ofText (String.ofList piece)

/-! ## Paths -/

/-- Where a path starts: at the working folder, or at the top. -/
inductive PathStart where
  | working
  | top
  | topDoubled
deriving Repr, DecidableEq

/-- The text that a path starts with. -/
def PathStart.text : PathStart → String
  | working => ""
  | top => "/"
  | topDoubled => "//"

/-- The start of a written path. -/
def PathStart.ofText (text : String) : PathStart :=
  match text.toList with
  | '/' :: '/' :: '/' :: _ => top
  | '/' :: '/' :: _ => topDoubled
  | '/' :: _ => top
  | _ => working

/-- A path: its start and the steps from there. -/
structure Path where
  start : PathStart
  steps : List Step
deriving Repr, DecidableEq

namespace Path

/-- The path that a text stands for. -/
def ofText (text : String) : Path where
  start := PathStart.ofText text
  steps := (stepsOfText text).filter (· != .here)

/-- The text of a path; a path without start and steps is a single dot. -/
def text (path : Path) : String :=
  match path.start, path.steps with
  | .working, [] => "."
  | start, steps => start.text ++ "/".intercalate (steps.map Step.text)

/-- The path to an entry of the folder at `path`. -/
def child (path : Path) (name : Name) : Path :=
  { path with steps := path.steps ++ [.down name] }

/-- The path without its last step. -/
def parent (path : Path) : Path :=
  { path with steps := path.steps.dropLast }

/-- The text of the last step, empty if there is none. -/
def fileName (path : Path) : String :=
  match path.steps.getLast? with
  | some step => step.text
  | none => ""

/-- Whether a path starts at the top. -/
def isAbsolute (path : Path) : Bool :=
  path.start != .working

/-- Undo every step down that a step up follows. At the top a step up goes nowhere; elsewhere it is
    kept. The steps done so far are given latest first. -/
def collapse (absolute : Bool) : List Step → List Step → List Step
  | done, [] => done.reverse
  | done, .here :: rest => collapse absolute done rest
  | done, .down name :: rest => collapse absolute (.down name :: done) rest
  | .down _ :: done, .up :: rest => collapse absolute done rest
  | [], .up :: rest => collapse absolute (if absolute then [] else [.up]) rest
  | step :: done, .up :: rest => collapse absolute (.up :: step :: done) rest

/-- The path from the top that `path` stands for in the folder at `working`, with steps up undone
    lexically. -/
def absolute (working path : Path) : Path :=
  let full := if path.isAbsolute then path
    else { working with steps := working.steps ++ path.steps }
  { full with steps := collapse full.isAbsolute [] full.steps }

/-- The steps that lead from `folder` to `path`, if its steps begin like this path. -/
def stepsBelow? (folder path : Path) : Option (List Step) :=
  if path.start = folder.start && folder.steps.isPrefixOf path.steps then
    some (path.steps.drop folder.steps.length)
  else none

end Path

/-! ## Suffixes -/

/-- The part of a name from its last dot on; empty if that dot is the first or the last character or
    if there is none. -/
def nameSuffix (name : String) : String :=
  let reversed := name.toList.reverse
  let after := reversed.takeWhile (· != '.')
  let before := (reversed.drop (after.length + 1))
  if after.isEmpty || before.isEmpty then "" else String.ofList ('.' :: after.reverse)

/-- The suffix of the last step of a path. -/
def Path.suffix (path : Path) : String :=
  nameSuffix path.fileName

end SourceOutline
