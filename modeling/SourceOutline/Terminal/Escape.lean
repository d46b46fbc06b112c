set_option autoImplicit false

/-! # Escape sequences

A terminal takes an escape character, an opening bracket, parameters and a letter as an order to
change colours or to move. Text that is printed elsewhere leaves these sequences out. -/

namespace SourceOutline.Terminal

/-- Whether a character may stand between the bracket and the letter of a sequence. -/
def isEscapeParameter (c : Char) : Bool :=
  c = ';' || c = '?' || c.isDigit

/-- How many more characters belong to the sequence whose escape character stands before a text. -/
def escapeLength? : List Char → Option Nat
  | '[' :: rest =>
    let parameters := rest.takeWhile isEscapeParameter
    if (rest.drop parameters.length).head?.any Char.isAlpha then some (parameters.length + 2)
    else none
  | _ => none

/-- A text without its escape sequences; the next `skip` characters belong to one. -/
def withoutEscapes (skip : Nat) : List Char → List Char
  | [] => []
  | c :: rest =>
    match skip with
    | skip + 1 => withoutEscapes skip rest
    | 0 =>
      match if c = '\x1b' then escapeLength? rest else none with
      | some length => withoutEscapes length rest
      | none => c :: withoutEscapes 0 rest

/-- A text as it is printed where there is no terminal. -/
def plain (text : String) : String :=
  String.ofList (withoutEscapes 0 text.toList)

end SourceOutline.Terminal
