import SourceOutline.Literal.Formatted
import SourceOutline.Number.Binary64

set_option autoImplicit false

/-! # Values of literals

A literal stands for a value without that anything is called: a constant, a number with a sign, a
complex number as the sum of a real and an imaginary one, or a tuple, set or dictionary of such
values. What a set holds, and what a dictionary has as a key, must be fit for it: no set and no
dictionary is. -/

namespace SourceOutline.Literal

/-- A value, as far as others depend on it. -/
inductive Value where
  | integer (n : Int)
  | real
  | imaginary
  /-- Any other value; the type that makes it unfit for a set, if there is one. -/
  | other (unfit : Option String)
deriving Repr, DecidableEq

/-- The type that makes a value unfit for a set. -/
def Value.unfit? : Value → Option String
  | other unfit => unfit
  | _ => none

/-- Why an expression stands for no value. -/
inductive ValueFault where
  /-- The expression is no literal. -/
  | malformed
  /-- A mapping stands where entries of a dictionary are wanted. -/
  | noKey
  | unfit (type : String)
  /-- An integer is too large for the real part of a complex number. -/
  | largeInteger
deriving Repr, DecidableEq

/-- The wording of a fault. -/
def ValueFault.message : ValueFault → String
  | malformed => "malformed node or string"
  | noKey => "malformed node or string: None"
  | unfit type => "unhashable type: '" ++ type ++ "'"
  | largeInteger => "int too large to convert to float"

/-- The value of a constant. -/
def Constant.toValue : Constant → Value
  | integer n => .integer n
  | real => .real
  | imaginary => .imaginary
  | _ => .other none

/-- The value of a number without a sign. -/
def Phrase.number? : Phrase → Option Value
  | .constant (.integer n) => some (.integer n)
  | .constant .real => some .real
  | .constant .imaginary => some .imaginary
  | _ => none

/-- The value of a number that may have a sign. -/
def Phrase.signedNumber? : Phrase → Option Value
  | .signed operand =>
    match operand.number? with
    | some (.integer n) => some (.integer (-n))
    | value => value
  | phrase => phrase.number?

/-- The least integer that is rounded to no binary number of double precision. -/
def realLimit : Nat := 0x3FFFFFFFFFFFFF <<< 970

/-- The value of a sum, or of a difference. -/
def sumValue (left right : Phrase) : Except ValueFault Value :=
  match left.signedNumber?, right.number? with
  | some (.integer n), some .imaginary =>
    if realLimit ≤ n.natAbs then .error .largeInteger else .ok .imaginary
  | some .real, some .imaginary => .ok .imaginary
  | _, _ => .error .malformed

/-- Accept a value that is fit for a set. -/
def Value.checkFit (value : Value) : Except ValueFault Unit :=
  match value.unfit? with
  | some type => .error (.unfit type)
  | none => .ok ()

mutual

/-- The value of an expression. -/
def Phrase.value : Phrase → Except ValueFault Value
  | .constant value => .ok value.toValue
  | .emptySet => .ok (.other (some "set"))
  | .signed operand =>
    match operand.number? with
    | some value => .ok value
    | none => .error .malformed
  | .sum left right => sumValue left right
  | .tuple items => do return .other (← tupleUnfit? items)
  | .set items => do
    checkItems items
    return .other (some "set")
  | .dictionary entries => do
    checkEntries entries
    return .other (some "dict")
  | _ => .error .malformed

/-- The type that makes a tuple of expressions unfit for a set. -/
def tupleUnfit? : List Phrase → Except ValueFault (Option String)
  | [] => .ok none
  | item :: rest => do
    let value ← item.value
    let others ← tupleUnfit? rest
    return value.unfit? <|> others

/-- Accept expressions as the items of a set. -/
def checkItems : List Phrase → Except ValueFault Unit
  | [] => .ok ()
  | item :: rest => do
    (← item.value).checkFit
    checkItems rest

/-- Accept phrases as the entries of a dictionary. -/
def checkEntries : List Phrase → Except ValueFault Unit
  | [] => .ok ()
  | entry :: rest => do
    entry.checkEntry
    checkEntries rest

/-- Accept a phrase as an entry of a dictionary. -/
def Phrase.checkEntry : Phrase → Except ValueFault Unit
  | .entry key value => do
    let key ← key.value
    let _ ← value.value
    key.checkFit
  | _ => .error .noKey

end

/-- Why a text is no literal. -/
inductive Fault where
  | null
  /-- The tokens of the text form no expression. -/
  | order (stop : Stop)
  | value (fault : ValueFault)
deriving Repr, DecidableEq

/-- Whether a text is no expression at all. -/
def Fault.isOfForm : Fault → Bool
  | null | order _ => true
  | value _ => false

/-- The wording of a fault. -/
def Fault.message : Fault → String
  | null => "source code string cannot contain null bytes"
  | order (.token fault) => fault.message
  | order (.order complaint) => complaint.message
  | order .tooDeep => "too many nested parentheses"
  | value fault => fault.message

/-- The fault of a text that should be a literal. -/
def faultOf? (text : List Char) : Option Fault :=
  if text.contains '\x00' then some .null
  else
    match readBy .whole (formattedFault? text.length) 1 text with
    | .error stop => some (.order stop)
    | .ok phrases =>
      match (phrases.head?.map Phrase.value).getD (.error .malformed) with
      | .ok _ => none
      | .error fault => some (.value fault)

end SourceOutline.Literal
