import SourceOutline.Number.Literal
import SourceOutline.Text.Quoted

set_option autoImplicit false

/-! # Faults of documents

A text that is no TOML document breaks the rules of the format in one of many ways, which count as
one fault. Some texts fail for a reason of their own: a path goes on below a value that is no table,
something is looked for past the end of a text or a list, or a number is too large to be used. To
write a value can fail too. -/

namespace SourceOutline.Toml

/-! ## Reading -/

/-- Why a text is no document. -/
inductive DocumentFault where
  | malformed
  /-- A header adds a table to a value that is no array. -/
  | notArray
  /-- A path goes on below a value that has no parts; its type is named. -/
  | noParts (type : String)
  /-- A key is looked for in a value that has no members; its type is named. -/
  | noMembers (type : String)
  /-- A key is set in a text. -/
  | setInText
  /-- A text is part of another, but no key of it. -/
  | keyOfText
  /-- A key is set in a list. -/
  | setInList
  | pastText
  | pastList
  /-- A text over several lines is given to an empty key. -/
  | noValue
  /-- The code point of an escape does not fit into a machine word. -/
  | largeCodePoint
  /-- A header opens a table twice, and what is there cannot be given as text. -/
  | longInteger
  /-- Any other reason, in the words of the library. -/
  | other (words : String)
deriving Repr, DecidableEq

/-- The wording of a fault. -/
def DocumentFault.message : DocumentFault → String
  | malformed => "Invalid TOML"
  | notArray => "You can only load a file descriptor, filename or list"
  | noParts type => "'" ++ type ++ "' object is not subscriptable"
  | noMembers type => "argument of type '" ++ type ++ "' is not iterable"
  | setInText => "'str' object does not support item assignment"
  | keyOfText => "string indices must be integers, not 'str'"
  | setInList => "list indices must be integers or slices, not str"
  | pastText => "string index out of range"
  | pastList => "list index out of range"
  | noValue => "cannot access local variable 'value' where it is not associated with a value"
  | largeCodePoint => "Python int too large to convert to C int"
  | longInteger => longIntegerMessage
  | other words => words

/-! ## Writing -/

/-- Why a value cannot be written. -/
inductive WriteFault where
  /-- A text starts with an escape that has nothing in front of it to join it to. -/
  | brokenEscape
  /-- An array that holds a table also holds something that is none; its type is named. -/
  | valueAmongTables (type : String)
  | textAmongTables
  | listAmongTables
  /-- A key is no text, and nothing is found under its text. -/
  | strayKey (key : String)
  /-- An integer has too many digits. -/
  | longInteger
  /-- Any other reason, in the words of the library. -/
  | other (words : String)
deriving Repr, DecidableEq

/-- The wording of a fault. -/
def WriteFault.message : WriteFault → String
  | brokenEscape => "list index out of range"
  | valueAmongTables type => "'" ++ type ++ "' object is not iterable"
  | textAmongTables => "string indices must be integers, not 'str'"
  | listAmongTables => "list indices must be integers or slices, not str"
  | strayKey key => String.ofList (quoted key.toList)
  | longInteger => longIntegerMessage
  | other words => words

end SourceOutline.Toml
