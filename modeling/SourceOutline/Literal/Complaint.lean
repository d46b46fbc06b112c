import SourceOutline.Literal.Token
import SourceOutline.Number.Literal

set_option autoImplicit false

/-! # Complaints

What is said of tokens that form no literal. Most complaints name a mistake that is often made; the
others only say that there is one. -/

namespace SourceOutline.Literal

/-- Why an escape sequence stands for nothing. -/
inductive EscapeFault where
  /-- Hexadecimal digits are missing; how many there have to be. -/
  | truncated (letter : Char) (digits : Nat)
  | noCharacter
  | malformedName
  | unknownName
deriving Repr, DecidableEq

/-- The wording of a fault. -/
def EscapeFault.message : EscapeFault → String
  | truncated letter digits =>
    "truncated \\" ++ letter.toString ++ String.ofList (List.replicate digits 'X') ++ " escape"
  | noCharacter => "illegal Unicode character"
  | malformedName => "malformed \\N character escape"
  | unknownName => "unknown Unicode character name"

/-- What is wrong with a text between quotes. -/
inductive TextFault where
  /-- Texts and bytes stand side by side. -/
  | mixed
  /-- A byte is written as a character that is not ASCII. -/
  | wideByte
  | byteEscape (position : Nat)
  /-- The first and the last position of an escape sequence that stands for nothing. -/
  | escape (first last : Nat) (fault : EscapeFault)
deriving Repr, DecidableEq

/-- The wording of a fault. -/
def TextFault.message : TextFault → String
  | mixed => "cannot mix bytes and nonbytes literals"
  | wideByte => "bytes can only contain ASCII literal characters"
  | byteEscape position =>
    "(value error) invalid \\x escape at position " ++ toString position
  | escape first last fault =>
    "(unicode error) 'unicodeescape' codec can't decode bytes in position " ++ toString first ++ "-"
      ++ toString last ++ ": " ++ fault.message

/-- What is wrong with a text into which expressions are put. -/
inductive FormattedFault where
  | loneBrace
  | deepNesting
  | backslash
  | comment
  | manyBrackets
  | unmatched (bracket : Char)
  | mismatched (closing opening : Char)
  | openText
  | unclosed
  | missingBefore (c : Char)
  | empty
  | conversion
deriving Repr, DecidableEq

/-- The wording of a fault. -/
def FormattedFault.message : FormattedFault → String
  | loneBrace => "f-string: single '\x7d' is not allowed"
  | deepNesting => "f-string: expressions nested too deeply"
  | backslash => "f-string expression part cannot include a backslash"
  | comment => "f-string expression part cannot include '#'"
  | manyBrackets => "f-string: too many nested parenthesis"
  | unmatched bracket => "f-string: unmatched '" ++ bracket.toString ++ "'"
  | mismatched closing opening =>
    "f-string: closing parenthesis '" ++ closing.toString
      ++ "' does not match opening parenthesis '" ++ opening.toString ++ "'"
  | openText => "f-string: unterminated string"
  | unclosed => "f-string: expecting '\x7d'"
  | missingBefore c => "f-string: expression required before '" ++ c.toString ++ "'"
  | empty => "f-string: empty expression not allowed"
  | conversion => "f-string: invalid conversion character: expected 's', 'r', or 'a'"

/-- What is wrong with the order of tokens, or inside one. -/
inductive Complaint where
  | invalid
  | indent
  | dedent
  /-- Two expressions stand side by side. -/
  | missingComma
  | missingElse
  /-- A name stands before its arguments without brackets. -/
  | missingBrackets (name : String)
  /-- One equals sign stands where a comparison or an assignment is meant. -/
  | equalsSign
  /-- Something that is no name takes a value, given by what it is called. -/
  | assignmentTo (called : String)
  | assignmentHere (called : String)
  | namedAssignment (called : String)
  | assignmentInCall
  | starInComprehension
  | bareTarget
  | spreadInComprehension
  | starHere
  | spreadHere
  | loneStar
  | starInEntry
  | missingColon
  | missingValue
  | bareGenerator
  | positionalAfterKeyword
  | positionalAfterSpread
  | starAfterSpread
  | missingDefault
  | defaultOrder
  | bracketsAroundParameters
  | slashFirst
  | slashTwice
  | slashAfterStar
  | slashBeforeStar
  | bareStar
  | starTwice
  | starDefault
  | spreadDefault
  | afterSpreadParameter
  /-- An integer has more digits than are read. -/
  | longInteger (digits : Nat)
  | text (fault : TextFault)
  | formatted (fault : FormattedFault)
  /-- An expression that is put into a text cannot be cut into tokens. -/
  | token (fault : TokenFault)
  /-- A complaint of an expression that is put into a text. -/
  | inText (complaint : Complaint)
deriving Repr, DecidableEq

/-- The wording of a complaint. -/
def Complaint.message : Complaint → String
  | invalid => "invalid syntax"
  | indent => "unexpected indent"
  | dedent => "unexpected unindent"
  | missingComma => "invalid syntax. Perhaps you forgot a comma?"
  | missingElse => "expected 'else' after 'if' expression"
  | missingBrackets name =>
    "Missing parentheses in call to '" ++ name ++ "'. Did you mean " ++ name ++ "(...)?"
  | equalsSign => "invalid syntax. Maybe you meant '==' or ':=' instead of '='?"
  | assignmentTo called => "cannot assign to " ++ called
  | assignmentHere called =>
    "cannot assign to " ++ called ++ " here. Maybe you meant '==' instead of '='?"
  | namedAssignment called => "cannot use assignment expressions with " ++ called
  | assignmentInCall => "expression cannot contain assignment, perhaps you meant \"==\"?"
  | starInComprehension => "iterable unpacking cannot be used in comprehension"
  | bareTarget => "did you forget parentheses around the comprehension target?"
  | spreadInComprehension => "dict unpacking cannot be used in dict comprehension"
  | starHere => "cannot use starred expression here"
  | spreadHere => "cannot use double starred expression here"
  | loneStar => "Invalid star expression"
  | starInEntry => "cannot use a starred expression in a dictionary value"
  | missingColon => "':' expected after dictionary key"
  | missingValue => "expression expected after dictionary key and ':'"
  | bareGenerator => "Generator expression must be parenthesized"
  | positionalAfterKeyword => "positional argument follows keyword argument"
  | positionalAfterSpread => "positional argument follows keyword argument unpacking"
  | starAfterSpread => "iterable argument unpacking follows keyword argument unpacking"
  | missingDefault => "expected default value expression"
  | defaultOrder => "non-default argument follows default argument"
  | bracketsAroundParameters => "Lambda expression parameters cannot be parenthesized"
  | slashFirst => "at least one argument must precede /"
  | slashTwice => "/ may appear only once"
  | slashAfterStar => "/ must be ahead of *"
  | slashBeforeStar => "expected comma between / and *"
  | bareStar => "named arguments must follow bare *"
  | starTwice => "* argument may appear only once"
  | starDefault => "var-positional argument cannot have default value"
  | spreadDefault => "var-keyword argument cannot have default value"
  | afterSpreadParameter => "arguments cannot follow var-keyword argument"
  | longInteger digits =>
    longNumeralMessage digits
      ++ " - Consider hexadecimal for huge integer literals to avoid decimal conversion limits."
  | text fault => fault.message
  | formatted fault => fault.message
  | token fault => fault.message
  | inText complaint => "f-string: " ++ complaint.message

end SourceOutline.Literal
