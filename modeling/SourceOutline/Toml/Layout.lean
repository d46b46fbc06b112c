import SourceOutline.Toml.Library
import SourceOutline.Toml.Reader

set_option autoImplicit false

/-! # The layout of documents

A TOML library is documented to load what the standard says, and to dump a table in one layout:
first the values of the table that are no tables, each on a line with its key, and then the tables
in it as sections, level by level. A section has a header with its path, unless there is nothing in
it but tables. Tables in arrays, numbers with a point and dates have no place in this layout, which
is that of plain tables. -/

namespace SourceOutline.Toml

/-! ## Plain tables -/

/-- A character that is printable, a line feed or a tab. -/
def IsPlainChar (c : Char) : Prop :=
  isPrintable c = true ∨ c = '\n' ∨ c = '\t'

/-- A text of such characters. -/
def IsPlainText (text : List Char) : Prop :=
  ∀ c ∈ text, IsPlainChar c

instance (c : Char) : Decidable (IsPlainChar c) :=
  inferInstanceAs (Decidable (isPrintable c = true ∨ c = '\n' ∨ c = '\t'))

instance (text : List Char) : Decidable (IsPlainText text) :=
  List.decidableBAll IsPlainChar text

/-- A key of printable characters, of which there is one. -/
structure IsPlainKey (key : String) : Prop where
  ne_nil : key.toList ≠ []
  printable : ∀ c ∈ key.toList, isPrintable c = true

instance (key : String) : Decidable (IsPlainKey key) :=
  decidable_of_iff (key.toList ≠ [] ∧ key.toList.all isPrintable = true)
    ⟨fun h => ⟨h.1, List.all_eq_true.1 h.2⟩, fun h => ⟨h.ne_nil, List.all_eq_true.2 h.printable⟩⟩

/-- A value that stands on one line: a truth value, an integer, a text of plain characters, or an
    array of such values. -/
inductive IsPlainItem : Value → Prop
  | bool (b : Bool) : IsPlainItem (.bool b)
  | int (n : Int) : IsPlainItem (.int n)
  | text {s : String} (hplain : IsPlainText s.toList) : IsPlainItem (.text s)
  | list {items : List Value} (hitems : ∀ item ∈ items, IsPlainItem item) :
      IsPlainItem (.list items)

mutual

/-- A value that stands on one line, or a plain table. -/
inductive IsPlainValue : Value → Prop
  | item {v : Value} (h : IsPlainItem v) : IsPlainValue v
  | table {fields : List (String × Value)} {inline : Bool} (h : IsPlainTable fields) :
      IsPlainValue (.table fields inline)

/-- The fields of a table with distinct keys of printable characters and with plain values. -/
inductive IsPlainTable : List (String × Value) → Prop
  | intro {fields : List (String × Value)} (hdistinct : (fields.map Prod.fst).Nodup)
      (hkeys : ∀ field ∈ fields, IsPlainKey field.1)
      (hvalues : ∀ field ∈ fields, IsPlainValue field.2) : IsPlainTable fields

end

/-! ## Lines -/

/-- A text in double quotes. -/
def inQuotes (text : List Char) : List Char :=
  '"' :: escaped '"' text ++ ['"']

/-- A key: bare if it can be, and otherwise in double quotes. -/
def keyText (key : String) : List Char :=
  if key.toList.all isBareKeyChar then key.toList else inQuotes key.toList

/-- The keys of a path with dots between them. -/
def pathText : List String → List Char
  | [] => []
  | [key] => keyText key
  | key :: rest => keyText key ++ '.' :: pathText rest

mutual

/-- A value that stands on one line. In an array a comma comes after each item. -/
def itemText : Value → List Char
  | .bool b => (if b then "true" else "false").toList
  | .int n => (toString n).toList
  | .text s => inQuotes s.toList
  | .list items _ => '[' :: itemTexts items ++ [']']
  | _ => []

/-- The items of an array. -/
def itemTexts : List Value → List Char
  | [] => []
  | item :: rest => ' ' :: itemText item ++ ',' :: itemTexts rest

end

/-- The lines of the values of a table that are no tables. -/
def linesText : List (String × Value) → List Char
  | [] => []
  | (key, value) :: rest =>
    if value.isTable then linesText rest
    else keyText key ++ " = ".toList ++ itemText value ++ '\n' :: linesText rest

/-! ## Sections -/

/-- A table in a table, with its path. -/
structure Section where
  path : List String
  fields : List (String × Value)

/-- The tables among fields, with their keys. -/
def tablesIn : List (String × Value) → List (String × List (String × Value))
  | [] => []
  | (key, .table inner _) :: rest => (key, inner) :: tablesIn rest
  | _ :: rest => tablesIn rest

/-- The sections for the tables in the table of a section. -/
def Section.below (part : Section) : List Section :=
  (tablesIn part.fields).map fun (key, inner) => ⟨part.path ++ [key], inner⟩

/-- A section has a header, unless there is nothing but tables in it. -/
def Section.HasHeader (part : Section) : Prop :=
  (∃ field ∈ part.fields, field.2.isTable = false) ∨ part.fields = []

instance (part : Section) : Decidable part.HasHeader :=
  inferInstanceAs (Decidable ((∃ field ∈ part.fields, field.2.isTable = false) ∨ _))

/-- As many levels of sections as asked for, from a level on. -/
def levelsFrom : Nat → List Section → List Section
  | 0, _ => []
  | count + 1, level => level ++ levelsFrom count (level.flatMap Section.below)

/-- An empty line in front of a section, unless one is there or nothing is. -/
def sectionBreak (text : List Char) : List Char :=
  if text.isEmpty || text.reverse.take 2 = ['\n', '\n'] then [] else ['\n']

/-- A document with one more section. -/
def addSection (text : List Char) (part : Section) : List Char :=
  if part.HasHeader then
    text ++ sectionBreak text ++ '[' :: pathText part.path ++ "]\n".toList ++ linesText part.fields
  else text

/-! ## Documents -/

mutual

/-- A bound for how deep a value nests. -/
def depth : Value → Nat
  | .list items _ => depthOfItems items + 1
  | .table fields _ => depthOfFields fields + 1
  | _ => 0

/-- A bound for how deep items nest. -/
def depthOfItems : List Value → Nat
  | [] => 0
  | item :: rest => max (depth item) (depthOfItems rest)

/-- A bound for how deep fields nest. -/
def depthOfFields : List (String × Value) → Nat
  | [] => 0
  | (_, value) :: rest => max (depth value) (depthOfFields rest)

end

/-- The sections of the tables below a table, level by level. -/
def sectionsOf (fields : List (String × Value)) : List Section :=
  levelsFrom (depthOfFields fields) (Section.below ⟨[], fields⟩)

/-- The document of a plain table. -/
def layout (fields : List (String × Value)) : List Char :=
  (sectionsOf fields).foldl addSection (linesText fields)

/-- A library that keeps to the standard and to the documented layout: it loads every document as
    the table that it stands for, and it dumps every plain table in the layout. -/
structure Library.IsDocumented (toml : Library) : Prop where
  load {text : List Char} {fields : List (String × Value)} (h : read? none text = some fields) :
    toml.load text = .ok fields
  dump {fields inner : List (String × Value)} {key : String} {inline : Bool}
    (h : IsPlainTable fields) (hkey : fields.lookup key = some (.table inner inline)) :
    toml.dump fields key (Pairs.ofFields inner) = .ok (layout fields)

end SourceOutline.Toml
