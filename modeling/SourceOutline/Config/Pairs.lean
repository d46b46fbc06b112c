import SourceOutline.Config.Settings

set_option autoImplicit false

/-! # Pairs as tables

A table can be made of pairs of keys and values, and then its keys need not be texts. Keys that are
equal count as one. -/

namespace SourceOutline

/-- Why a value that is no table cannot be read as pairs of keys and values. -/
inductive PairsFault where
  | noItems (type : String)
  /-- The item at an index has no parts. -/
  | notPair (index : Nat)
  /-- The item at an index has another number of parts than two. -/
  | wrongLength (index length : Nat)
  | notPlain (type : String)
deriving Repr, DecidableEq

/-- The wording of a fault. -/
def PairsFault.message : PairsFault → String
  | noItems type => "'" ++ type ++ "' object is not iterable"
  | notPair index =>
    "cannot convert dictionary update sequence element #" ++ toString index ++ " to a sequence"
  | wrongLength index length =>
    "dictionary update sequence element #" ++ toString index ++ " has length " ++ toString length
      ++ "; 2 is required"
  | notPlain type => "unhashable type: '" ++ type ++ "'"

/-- The entries of a table whose keys need not be texts. Keys that are equal count as one. -/
abbrev Pairs := List (Value × Value)

namespace Pairs

/-- Set the value of a key: an old one keeps its place, a new one comes last. -/
def set (key value : Value) : Pairs → Pairs
  | [] => [(key, value)]
  | (k, v) :: rest => if k.same key then (k, value) :: rest else (k, v) :: set key value rest

/-- The pairs after those that items give; the index of the first item is given. -/
def addItems (pairs : Pairs) (index : Nat) : List Value → Except PairsFault Pairs
  | [] => .ok pairs
  | item :: rest =>
    match item.items with
    | .error _ => .error (.notPair index)
    | .ok [key, value] =>
      match key with
      | .list _ _ | .table _ _ => .error (.notPlain key.typeName)
      | _ => addItems (pairs.set key value) (index + 1) rest
    | .ok parts => .error (.wrongLength index parts.length)

/-- The pairs of a table whose keys are texts. -/
def ofFields (fields : List (String × Value)) : Pairs :=
  fields.map fun (key, value) => (.text key, value)

/-- The pairs of a value: the fields of a table, or what the items of a list give. -/
def ofValue : Value → Except PairsFault Pairs
  | .table fields _ => .ok (ofFields fields)
  | value =>
    match value.items with
    | .ok items => addItems [] 0 items
    | .error _ => .error (.noItems value.typeName)

/-- The fields under the keys that are texts. -/
def fields (pairs : Pairs) : List (String × Value) :=
  pairs.filterMap fun
    | (.text key, value) => some (key, value)
    | _ => none

theorem fields_ofFields (fields : List (String × Value)) : (ofFields fields).fields = fields := by
  rw [Pairs.fields, ofFields, List.filterMap_map]
  exact List.filterMap_some

end Pairs

end SourceOutline
