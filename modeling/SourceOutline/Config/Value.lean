import SourceOutline.Config.Moment
import SourceOutline.Number.Literal
import SourceOutline.Number.Shortest
import SourceOutline.Text.Quoted

set_option autoImplicit false

/-! # Configuration values

What a configuration can hold: truth values, numbers, texts, dates and times, lists and tables.
Numbers of different kinds are equal when their values are, a truth value counting as zero or one,
and tables are equal whatever the order of their keys. -/

namespace SourceOutline

/-- A value of a configuration. Tables have distinct keys, in the order in which they were set. How
    a list or a table was written shows in the name of its type: a list may be fixed, which means
    that it cannot grow, and a table may be written inline. -/
inductive Value where
  | null
  | bool (b : Bool)
  | int (n : Int)
  | float (x : Binary64)
  | text (s : String)
  | moment (m : Moment)
  | list (items : List Value) (fixed : Bool := false)
  | table (fields : List (String × Value)) (inline : Bool := false)
deriving Inhabited

namespace Value

/-- The name of a value's type in messages. -/
def typeName : Value → String
  | null => "NoneType"
  | bool _ => "bool"
  | int _ => "int"
  | float _ => "float"
  | text _ => "str"
  | moment m => m.typeName
  | list _ fixed => if fixed then "tuple" else "list"
  | table _ inline => if inline then "DynamicInlineTableDict" else "dict"

/-- Whether a value is the given text. -/
def isText (s : String) : Value → Bool
  | text t => t == s
  | _ => false

/-- Whether a value is a table. -/
def isTable : Value → Bool
  | table _ _ => true
  | _ => false

/-- Whether a value counts as true: it is neither missing, nor zero, nor empty. -/
def isTrue : Value → Bool
  | null => false
  | bool b => b
  | int n => n != 0
  | float x => !x.hasValue 0
  | text s => s != ""
  | moment _ => true
  | list items _ => !items.isEmpty
  | table fields _ => !fields.isEmpty

/-! ## Equality -/

mutual

/-- Whether two values are equal. -/
def same : Value → Value → Bool
  | null, null => true
  | bool a, bool b => a == b
  | bool a, int n => n == (if a then 1 else 0)
  | bool a, float x => x.hasValue (if a then 1 else 0)
  | int n, bool b => n == (if b then 1 else 0)
  | int m, int n => m == n
  | int n, float x => x.hasValue n
  | float x, bool b => x.hasValue (if b then 1 else 0)
  | float x, int n => x.hasValue n
  | float x, float y => x.sameValue y
  | text s, text t => s == t
  | moment a, moment b => a.same b
  | list xs f, list ys g => f == g && sameItems xs ys
  | table xs _, table ys _ => xs.length == ys.length && sameFields xs ys
  | _, _ => false

/-- Whether two lists have equal items. -/
def sameItems : List Value → List Value → Bool
  | [], [] => true
  | x :: xs, y :: ys => same x y && sameItems xs ys
  | _, _ => false

/-- Whether each field has an equal one among others. -/
def sameFields : List (String × Value) → List (String × Value) → Bool
  | [], _ => true
  | (key, x) :: rest, fields =>
    (match fields.lookup key with
      | some y => same x y
      | none => false) && sameFields rest fields

end

/-! ## Identity -/

mutual

/-- Whether two values are the same down to the way in which they are written. -/
def identical : Value → Value → Bool
  | null, null => true
  | bool a, bool b => a == b
  | int m, int n => m == n
  | float x, float y => x == y
  | text s, text t => s == t
  | moment a, moment b => a == b
  | list xs f, list ys g => identicalItems xs ys && f == g
  | table xs i, table ys j => identicalFields xs ys && i == j
  | _, _ => false

/-- Whether two lists have the same items. -/
def identicalItems : List Value → List Value → Bool
  | [], [] => true
  | x :: xs, y :: ys => identical x y && identicalItems xs ys
  | _, _ => false

/-- Whether two tables have the same fields in the same order. -/
def identicalFields : List (String × Value) → List (String × Value) → Bool
  | [], [] => true
  | (key, x) :: xs, (key', y) :: ys => key == key' && identical x y && identicalFields xs ys
  | _, _ => false

end

mutual

theorem identical_iff : ∀ v w : Value, identical v w = true ↔ v = w
  | null, w => by cases w <;> simp [identical]
  | bool _, w => by cases w <;> simp [identical]
  | int _, w => by cases w <;> simp [identical]
  | float _, w => by cases w <;> simp [identical]
  | text _, w => by cases w <;> simp [identical]
  | moment _, w => by cases w <;> simp [identical]
  | list xs _, w => by cases w <;> simp [identical, identicalItems_iff xs]
  | table xs _, w => by cases w <;> simp [identical, identicalFields_iff xs]

theorem identicalItems_iff : ∀ xs ys : List Value, identicalItems xs ys = true ↔ xs = ys
  | [], ys => by cases ys <;> simp [identicalItems]
  | x :: xs, ys => by cases ys <;> simp [identicalItems, identical_iff x, identicalItems_iff xs]

theorem identicalFields_iff : ∀ xs ys : List (String × Value),
    identicalFields xs ys = true ↔ xs = ys
  | [], ys => by cases ys <;> simp [identicalFields]
  | (key, x) :: xs, ys => by
    cases ys <;> simp [identicalFields, identical_iff x, identicalFields_iff xs, Prod.ext_iff]

end

instance : DecidableEq Value :=
  fun v w => decidable_of_iff (identical v w = true) (identical_iff v w)

/-! ## Text -/

mutual

/-- A value as it is written inside other values: texts are quoted. -/
def literal : Value → List Char
  | null => "None".toList
  | bool b => (if b then "True" else "False").toList
  | int n => (toString n).toList
  | float x => x.render.toList
  | text s => quoted s.toList
  | moment m => m.literal
  | list [item] true => '(' :: literal item ++ [',', ')']
  | list items true => '(' :: literalItems items ++ [')']
  | list items false => '[' :: literalItems items ++ [']']
  | table fields _ => '\x7b' :: literalFields fields ++ ['\x7d']

/-- Items with commas between them. -/
def literalItems : List Value → List Char
  | [] => []
  | [item] => literal item
  | item :: rest => literal item ++ ',' :: ' ' :: literalItems rest

/-- Fields with commas between them. -/
def literalFields : List (String × Value) → List Char
  | [] => []
  | [(key, value)] => quoted key.toList ++ ':' :: ' ' :: literal value
  | (key, value) :: rest =>
    quoted key.toList ++ ':' :: ' ' :: literal value ++ ',' :: ' ' :: literalFields rest

end

mutual

/-- Whether all integers in a value can be given as text. -/
def hasLiteral : Value → Bool
  | int n => hasText n
  | list items _ => itemsHaveLiterals items
  | table fields _ => fieldsHaveLiterals fields
  | _ => true

/-- Whether all integers in items can be given as text. -/
def itemsHaveLiterals : List Value → Bool
  | [] => true
  | item :: rest => hasLiteral item && itemsHaveLiterals rest

/-- Whether all integers in fields can be given as text. -/
def fieldsHaveLiterals : List (String × Value) → Bool
  | [] => true
  | (_, value) :: rest => hasLiteral value && fieldsHaveLiterals rest

end

/-- A value as it is shown on its own: a text without quotes. -/
def shown : Value → String
  | text s => s
  | moment m => String.ofList (m.text ' ')
  | value => String.ofList value.literal

/-! ## Tables -/

/-- Set a field: an old one keeps its place, a new one comes last. -/
def setField (fields : List (String × Value)) (key : String) (value : Value) :
    List (String × Value) :=
  match fields with
  | [] => [(key, value)]
  | (k, v) :: rest => if k = key then (k, value) :: rest else (k, v) :: setField rest key value

end Value

end SourceOutline
