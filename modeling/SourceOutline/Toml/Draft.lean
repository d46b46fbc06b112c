import SourceOutline.Config.Value

set_option autoImplicit false

/-! # Tables under construction

While a TOML document is read, its tables grow from three sides: headers open them, dotted keys open
them on the way to a key, and arrays of tables gain elements. A draft remembers how each table was
opened, since that decides who may still add to it: a header opens a table once, a table that a
dotted key has opened may be extended by dotted keys of the same section only, and a table that was
merely passed through by a header may still be opened by either. Finished values cannot be added
to at all. -/

namespace SourceOutline.Toml

/-- How a table has come about. -/
inductive Origin where
  /-- A header passed through it. -/
  | passed
  /-- A header opened it. -/
  | opened
  /-- A dotted key of the given section opened it. -/
  | dotted (sectionNumber : Nat)
deriving Repr, DecidableEq

/-- A value under construction. An array of tables has a last element, which is the one that
    grows. -/
inductive Draft where
  | value (v : Value)
  | table (origin : Origin) (fields : List (String × Draft))
  | tables (earlier : List (List (String × Draft))) (last : List (String × Draft))
deriving Inhabited

/-- The fields of a table under construction, in the order in which they came. -/
abbrev Fields := List (String × Draft)

/-! ## Finished values -/

mutual

/-- The value of a draft. -/
def Draft.finish : Draft → Value
  | .value v => v
  | .table _ fields => .table (finishFields fields)
  | .tables earlier last => .list (finishTables earlier ++ [.table (finishFields last)])

/-- The fields of a finished table. -/
def finishFields : List (String × Draft) → List (String × Value)
  | [] => []
  | (key, draft) :: rest => (key, draft.finish) :: finishFields rest

/-- Finished tables. -/
def finishTables : List (List (String × Draft)) → List Value
  | [] => []
  | fields :: rest => .table (finishFields fields) :: finishTables rest

end

/-! ## Growing -/

/-- Replace the draft of a key that is there. -/
def replaceField (key : String) (draft : Draft) : Fields → Fields
  | [] => []
  | (k, d) :: rest => if k = key then (k, draft) :: rest else (k, d) :: replaceField key draft rest

/-- Change the table at the end of a path, making the tables on the way; of an array of tables it is
    the last element that the path goes through. -/
def within (change : Fields → Option Fields) : List String → Fields → Option Fields
  | [], fields => change fields
  | key :: rest, fields =>
    match fields.lookup key with
    | none => do return fields ++ [(key, .table .passed (← within change rest []))]
    | some (.table origin inner) => do
      return replaceField key (.table origin (← within change rest inner)) fields
    | some (.tables earlier last) => do
      return replaceField key (.tables earlier (← within change rest last)) fields
    | some (.value _) => none

/-- Open the table of a key by a header. -/
def openTable (key : String) (fields : Fields) : Option Fields :=
  match fields.lookup key with
  | none => some (fields ++ [(key, .table .opened [])])
  | some (.table .passed inner) => some (replaceField key (.table .opened inner) fields)
  | some _ => none

/-- Open one more table in the array of a key by a header. -/
def openElement (key : String) (fields : Fields) : Option Fields :=
  match fields.lookup key with
  | none => some (fields ++ [(key, .tables [] [])])
  | some (.tables earlier last) =>
    some (replaceField key (.tables (earlier ++ [last]) []) fields)
  | some _ => none

/-- Whether dotted keys of a section may add to a table. -/
def Origin.allowsDotted (sectionNumber : Nat) : Origin → Bool
  | .passed => true
  | .opened => false
  | .dotted n => n == sectionNumber

/-- Give a value to a dotted key that has not got one. -/
def assign (sectionNumber : Nat) (v : Value) : List String → Fields → Option Fields
  | [], _ => none
  | [key], fields =>
    match fields.lookup key with
    | none => some (fields ++ [(key, .value v)])
    | some _ => none
  | key :: rest, fields =>
    match fields.lookup key with
    | none => do
      return fields ++ [(key, .table (.dotted sectionNumber) (← assign sectionNumber v rest []))]
    | some (.table origin inner) =>
      if origin.allowsDotted sectionNumber then do
        let inner ← assign sectionNumber v rest inner
        return replaceField key (.table (.dotted sectionNumber) inner) fields
      else none
    | some _ => none

end SourceOutline.Toml
