import SourceOutline.Config.Pairs
import SourceOutline.Toml.Fault

set_option autoImplicit false

/-! # TOML libraries

Documents are loaded and dumped by a library. It may fail on either way for reasons of its own,
which it gives in words. -/

namespace SourceOutline.Toml

/-- What is used of a library. It loads the table that a text stands for, and it dumps a table as a
    text. One table in the table that it dumps is given by its pairs, since the keys of that table
    need not be texts. -/
structure Library where
  load (text : List Char) : Except DocumentFault (List (String × Value))
  dump (fields : List (String × Value)) (key : String) (pairs : Pairs) :
    Except WriteFault (List Char)

end SourceOutline.Toml
