import SourceOutline.Text.Hex
import SourceOutline.Text.Printable

set_option autoImplicit false

/-! # Quoted text

Text is quoted so that it shows on one line and every character can be told. Single quotes are
used, or double quotes if that saves escaping a single quote. The quote in use, the backslash and
the characters that do not print are escaped. -/

namespace SourceOutline

/-- A character that does not print, by its code point. -/
def escapeUnprintable (c : Char) : List Char :=
  let n := c.toNat
  if n < 0x100 then '\\' :: 'x' :: hexDigits 2 n
  else if n < 0x10000 then '\\' :: 'u' :: hexDigits 4 n
  else '\\' :: 'U' :: hexDigits 8 n

/-- A character between the given quotes. -/
def quoteChar (quote c : Char) : List Char :=
  if c = quote || c = '\\' then ['\\', c]
  else if c = '\t' then ['\\', 't']
  else if c = '\n' then ['\\', 'n']
  else if c = '\r' then ['\\', 'r']
  else if isPrintable c then [c]
  else escapeUnprintable c

/-- A text as it stands between the given quotes. -/
def escaped (quote : Char) (text : List Char) : List Char :=
  text.flatMap (quoteChar quote)

/-- The quote that a text is put between. -/
def quoteFor (text : List Char) : Char :=
  if text.contains '\'' && !text.contains '"' then '"' else '\''

/-- A text between quotes. -/
def quoted (text : List Char) : List Char :=
  let quote := quoteFor text
  quote :: escaped quote text ++ [quote]

end SourceOutline
