import SourceOutline.Toml.Diagnosis
import SourceOutline.Toml.Library
import SourceOutline.Toml.Writer

set_option autoImplicit false

/-! # A TOML package

The library that the program runs with. It sets a limit on the digits of decimal integers. -/

namespace SourceOutline.Toml

/-- Every pair with the value that is found under the text of its key. -/
def entriesOfPairs (pairs : Pairs) : Entries :=
  pairs.map fun (key, _) => (key.shown, pairs.fields.lookup key.shown)

/-- The table that a document stands for, or the fault of the text. -/
def read (text : List Char) : Except DocumentFault (List (String × Value)) :=
  match read? (some digitLimit) text with
  | some fields => .ok fields
  | none => .error (faultOf text)

/-- The library of the package. -/
def package : Library where
  load := read
  dump fields key pairs := write fields key (entriesOfPairs pairs)

end SourceOutline.Toml
