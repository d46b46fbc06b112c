set_option autoImplicit false

/-! # Phrases

What the tokens of a literal form: expressions, and the parts that stand only inside one. Of an
expression that is no literal no more is kept than what it is called. -/

namespace SourceOutline.Literal

/-- The kinds of expressions that are no literals. -/
inductive Form where
  | assignment
  | awaiting
  | call
  | comparison
  | conditional
  | dictionaryComprehension
  | formattedText
  | function
  | generator
  | member
  | operation
  | setComprehension
  | yielding
deriving Repr, DecidableEq

/-- What a kind of expression is called. -/
def Form.name : Form → String
  | assignment => "named expression"
  | awaiting => "await expression"
  | call => "function call"
  | comparison => "comparison"
  | conditional => "conditional expression"
  | dictionaryComprehension => "dict comprehension"
  | formattedText => "f-string expression"
  | function => "lambda"
  | generator => "generator expression"
  | member => "attribute"
  | operation => "expression"
  | setComprehension => "set comprehension"
  | yielding => "yield expression"

/-- A value that is written as one word, number or text. -/
inductive Constant where
  | integer (n : Nat)
  | real
  | imaginary
  | text
  | bytes
  | yes
  | no
  | nothing
  | ellipsis
deriving Repr, DecidableEq

/-- What a constant is called. -/
def Constant.name : Constant → String
  | yes => "True"
  | no => "False"
  | nothing => "None"
  | ellipsis => "ellipsis"
  | _ => "literal"

/-- A phrase: an expression, or a part of one. -/
inductive Phrase where
  | name (name : String)
  | constant (value : Constant)
  | tuple (items : List Phrase)
  | set (items : List Phrase)
  | dictionary (entries : List Phrase)
  /-- A number with a sign, or any other expression with one. -/
  | signed (operand : Phrase)
  /-- A sum or a difference. -/
  | sum (left right : Phrase)
  /-- The call that makes a set of nothing. -/
  | emptySet
  /-- The question whether something is in a collection. -/
  | membership (left : Phrase)
  | starred (value : Phrase)
  | other (form : Form)
  /-- An entry of a dictionary. -/
  | entry (key value : Phrase)
  /-- A mapping whose entries are taken into a dictionary, or given to a function by name. -/
  | spread (value : Phrase)
  /-- A value that is given to a function by name. -/
  | keyword
  /-- A text between quotes as it is written, with the line on which it starts. -/
  | piece (text : String) (line : Nat)
deriving Repr

/-- What a phrase is called. -/
def Phrase.called : Phrase → String
  | name _ => "name"
  | constant value => value.name
  | tuple _ => "tuple"
  | set _ => "set display"
  | dictionary _ => "dict literal"
  | signed _ | sum _ _ => Form.operation.name
  | emptySet => Form.call.name
  | membership _ => Form.comparison.name
  | starred _ => "starred"
  | other form => form.name
  | entry _ _ | spread _ | keyword | piece _ _ => "literal"

/-- Whether a phrase is given to a function by its place. -/
def Phrase.isPositional : Phrase → Bool
  | spread _ | keyword => false
  | _ => true

/-- Whether a phrase is a mapping whose entries are taken. -/
def Phrase.isSpread : Phrase → Bool
  | spread _ => true
  | _ => false

mutual

/-- The first part of a phrase to which no loop can assign. -/
def Phrase.unassignable? : Phrase → Option Phrase
  | .tuple items => firstUnassignable? items
  | .starred value | .membership value => value.unassignable?
  | .name _ | .other .member | .other .comparison => none
  | phrase => some phrase

/-- The first part of phrases to which no loop can assign. -/
def firstUnassignable? : List Phrase → Option Phrase
  | [] => none
  | phrase :: rest => phrase.unassignable? <|> firstUnassignable? rest

end

end SourceOutline.Literal
