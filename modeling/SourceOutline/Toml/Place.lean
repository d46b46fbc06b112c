import SourceOutline.Config.Value
import SourceOutline.Text.Split
import SourceOutline.Toml.Fault

set_option autoImplicit false

/-! # Places in documents

A header leads to a place among the values that a document has so far, and a dotted key leads on
from there. What happens on the way at a value that is no table depends on the value: for a header a
list stands for its last item and a text for its last character, and other values have no parts at
all. -/

namespace SourceOutline.Toml

/-! ## Places -/

/-- A step from a value to one of its parts. -/
inductive Step where
  | field (key : String)
  /-- To the last item of a list or the last character of a text. -/
  | last
deriving DecidableEq

/-- A way from a value to one inside of it. -/
abbrev Place := List Step

/-- The part of a value that a header goes on with. -/
def lastPart : Value → Except DocumentFault Value
  | .list items _ =>
    match items.getLast? with
    | some item => .ok item
    | none => .error .pastList
  | .text s =>
    match s.toList.getLast? with
    | some c => .ok (.text (String.singleton c))
    | none => .error .pastText
  | value => .error (.noParts value.typeName)

/-- A value with its last part replaced. The characters of a text stay as they are. -/
def replaceLast (part : Value) : Value → Value
  | .list items fixed => .list (items.dropLast ++ [part]) fixed
  | value => value

/-- The value at a place. -/
def valueAt : Place → Value → Value
  | [], value => value
  | .field key :: rest, .table fields _ => valueAt rest ((fields.lookup key).getD .null)
  | .field _ :: _, _ => .null
  | .last :: rest, value =>
    match lastPart value with
    | .ok part => valueAt rest part
    | .error _ => .null

/-- A value with the one at a place replaced. -/
def replaceAt (new : Value) : Place → Value → Value
  | [], _ => new
  | .field key :: rest, .table fields inline =>
    let part := replaceAt new rest ((fields.lookup key).getD .null)
    .table (Value.setField fields key part) inline
  | .field _ :: _, value => value
  | .last :: rest, value =>
    match lastPart value with
    | .ok part => replaceLast (replaceAt new rest part) value
    | .error _ => value

/-! ## Headers -/

/-- Why a key cannot be set in a value that is no table. -/
def setFault (key : String) : Value → DocumentFault
  | .text s => if isPartOf key.toList s.toList then .keyOfText else .setInText
  | .list _ _ => .setInList
  | value => .noMembers value.typeName

/-- What a header leads to: the value that it starts from with what it adds, the place of its table,
    and the keys of tables that headers have passed through and not opened. Those tables are known
    by their keys alone. -/
structure Opening where
  value : Value
  place : Place := []
  passed : List String

/-- Change the start of what a header leads to. -/
def Opening.from (opening : Opening) (step : Step) (value : Value) : Opening :=
  { opening with value, place := step :: opening.place }

/-- What a header leads to from the value of a key; one for an array goes on with the last part of a
    list or a text. -/
def enter (isArray : Bool) (open? : Value → Except DocumentFault Opening) (part : Value) :
    Except DocumentFault Opening :=
  match isArray, part with
  | false, _ | true, .table _ _ => open? part
  | true, part => do
    let opening ← open? (← lastPart part)
    return opening.from .last (replaceLast opening.value part)

/-- What a header leads to, if its key is not there: a new table, or a list with one. -/
def newTable (isArray : Bool) (keysLeft : List String) : Value :=
  if isArray && keysLeft.isEmpty then .list [.table []] else .table []

/-- Open the value of the last key of a header, given all fields beside it. -/
def reopen (isArray : Bool) (passed : List String) (key : String)
    (fields : List (String × Value)) (part : Value) :
    Except DocumentFault (Value × List String) :=
  if passed.contains key then if isArray then .error .malformed else .ok (part, passed.erase key)
  else if isArray then
    match part with
    | .list items fixed => .ok (.list (items ++ [.table []]) fixed, passed)
    | _ => .error .notArray
  else .error (if (Value.table fields).hasLiteral then .malformed else .longInteger)

/-- Follow the keys of a header. -/
def openHeader (isArray : Bool) (passed : List String) :
    List String → Value → Except DocumentFault Opening
  | [], value => .ok { value, passed }
  | key :: rest, value =>
    if key = "" then .error .malformed
    else
      match value with
      | .table fields inline => do
        let (part, passed) ← match fields.lookup key with
          | none =>
            pure (newTable isArray rest, if rest.isEmpty then passed else passed ++ [key])
          | some part =>
            if rest.isEmpty then reopen isArray passed key fields part else pure (part, passed)
        let opening ← enter isArray (fun part => openHeader isArray passed rest part) part
        return opening.from (.field key) (.table (Value.setField fields key opening.value) inline)
      | value => do
        match ← lastPart value with
        | .table fields inline =>
          let part := (fields.lookup key).getD (newTable isArray rest)
          let opening ← enter isArray (fun part => openHeader isArray passed rest part) part
          let table := Value.table (Value.setField fields key opening.value) inline
          return (opening.from (.field key) table).from .last (replaceLast table value)
        | part => throw (setFault key part)

/-! ## Dotted keys -/

/-- Why a dotted key cannot be followed to its last part. -/
def dottedFault? : List String → Value → Option DocumentFault
  | key :: next :: rest, .table fields _ =>
    match fields.lookup key with
    | none => none
    | some value => dottedFault? (next :: rest) value
  | key :: _ :: _, value => some (setFault key value)
  | _, _ => none

/-- Give a value to a dotted key that has not got one, or only open the tables on the way if there
    is no value yet. -/
def setNew (value? : Option Value) : List String → Value → Except DocumentFault Value
  | [key], .table fields inline =>
    match fields.lookup key with
    | some _ => .error .malformed
    | none => .ok (.table (fields ++ (value?.map fun value => (key, value)).toList) inline)
  | key :: rest, .table fields inline => do
    let part ← setNew value? rest ((fields.lookup key).getD (.table []))
    return .table (Value.setField fields key part) inline
  | _, _ => .error .malformed

end SourceOutline.Toml
