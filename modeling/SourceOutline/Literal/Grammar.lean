import SourceOutline.Literal.Pattern
import SourceOutline.Literal.Quotation

set_option autoImplicit false

/-! # The grammar of expressions

A literal is an expression, so the order of its tokens is that of an expression: from conditions
down to names, numbers and texts, with calls, comprehensions and anonymous functions. Square
brackets have no rule, since a tag holds none.

The rules of the last section describe mistakes that are often made. Those in the entries of a
dictionary are looked for at once. -/

namespace SourceOutline.Literal

/-- The rules of the grammar. -/
inductive Rule where
  | whole
  | expressions
  | expression
  | yielding
  | starredExpressions
  | starredExpression
  | items
  | item
  | assignment
  | namedExpression
  | disjunction
  | conjunction
  | inversion
  | comparison
  | comparisonEnd
  | bitOr
  | bitXor
  | bitAnd
  | shift
  | sum
  | term
  | factor
  | power
  | awaited
  | primary
  | atom
  | group
  | texts
  | tuple
  | setDisplay
  | dictionary
  | entries
  | entry
  | pair
  | clauses
  | clause
  | setComprehension
  | generator
  | dictionaryComprehension
  | arguments
  | argumentList
  | keywordArguments
  | starredArgument
  | keywordOrStarred
  | keywordOrSpread
  | targets
  | targetTuple
  | target
  | memberTarget
  | targetAtom
  | targetStart
  | targetGoesOn
  | function
  | parameters
  | parameterList
  | plainBeforeSlash
  | defaultBeforeSlash
  | starParameters
  | spreadParameter
  | plainParameter
  | defaultParameter
  | anyParameter
  | defaultValue
  | expressionMistake
  | plainExpression
  | callMistake
  | assignmentMistake
  | groupMistake
  | comprehensionMistake
  | dictionaryComprehensionMistake
  | entriesMistake
  | pairMistake
  | argumentsMistake
  | keywordMistake
  | targetMistake
  | parametersMistake
  | defaultsBefore
  | starParametersMistake
  | spreadParameterMistake
  | defaultMistake
deriving Repr, DecidableEq, Hashable

/-! ## Alternatives -/

/-- Give the phrases as they are. -/
def plain (pattern : Pattern Rule) : Alternative Rule :=
  { pattern }

/-- Give one phrase made of the ones that have been read. -/
def shaped (shape : List Phrase → Phrase) (pattern : Pattern Rule) : Alternative Rule :=
  { pattern, verdict := fun _ phrases => .give [shape phrases] }

/-- Give an expression that is no literal. -/
def formed (form : Form) (pattern : Pattern Rule) : Alternative Rule :=
  shaped (fun _ => .other form) pattern

/-- Give nothing. -/
def unnamed (pattern : Pattern Rule) : Alternative Rule :=
  { pattern := .silent pattern }

/-- Look for a mistake. -/
def mistakeIn (rule : Rule) : Alternative Rule :=
  { pattern := .rule rule, isMistake := true }

/-- Complain of a mistake, if the phrases give cause for it. -/
def mistakeIf (complaint? : List Phrase → Option Complaint) (pattern : Pattern Rule) :
    Alternative Rule where
  pattern := pattern
  verdict _ phrases :=
    match complaint? phrases with
    | some complaint => .stop (.order complaint)
    | none => .refuse

/-- Complain of a mistake. -/
def mistake (complaint : Complaint) (pattern : Pattern Rule) : Alternative Rule :=
  mistakeIf (fun _ => some complaint) pattern

/-- Complain of what the first phrase is called. -/
def mistakeOfFirst (complaint : String → Complaint) (pattern : Pattern Rule) : Alternative Rule :=
  mistakeIf (fun phrases => phrases.head?.map fun phrase => complaint phrase.called) pattern

/-- An expression made of the first two phrases. -/
def ofTwo (shape : Phrase → Phrase → Phrase) : List Phrase → Phrase
  | first :: second :: _ => shape first second
  | _ => .other .operation

/-- An expression made of the first phrase. -/
def ofOne (shape : Phrase → Phrase) (phrases : List Phrase) : Phrase :=
  (phrases.head?.map shape).getD (.other .operation)

/-- The call of the first phrase with the other ones. -/
def callOf : List Phrase → Phrase
  | [.name "set"] => .emptySet
  | _ => .other .call

/-- The name of something that used to be called without brackets. -/
def calledWithoutBrackets? : List Phrase → Option String
  | .name name :: _ => if name == "print" || name == "exec" then some name else none
  | _ => none

open Pattern (all any maybe repeated listed many ahead absent silent)

/-- A name that is no keyword. -/
def aName : Pattern Rule := .kind .name

/-- An assignment, or an expression that does not start one. -/
def value : Pattern Rule :=
  any [.rule .assignment, all [.rule .expression, absent ":="]]

/-- What may follow a value after all but an equals sign. -/
def noEquals : Pattern Rule := absent (any ["=", ":="])

/-! ## The rules -/

open Rule

/-- The ways to read expressions from conditions to comparisons. -/
def conditionAlternatives : Rule → List (Alternative Rule)
  | whole => [plain (all [expressions, many (.kind .newline), .kind .finish])]
  | expressions =>
    [shaped .tuple (all [expression, repeated (all [",", expression]), maybe ","]),
     shaped .tuple (all [expression, ","]),
     plain expression]
  | expression =>
    [mistakeIn expressionMistake,
     mistakeIn callMistake,
     formed .conditional (all [disjunction, "if", disjunction, "else", expression]),
     plain disjunction,
     plain function]
  | yielding =>
    [formed .yielding (all ["yield", "from", expression]),
     formed .yielding (all ["yield", maybe starredExpressions])]
  | starredExpressions =>
    [shaped .tuple
      (all [starredExpression, repeated (all [",", starredExpression]), maybe ","]),
     shaped .tuple (all [starredExpression, ","]),
     plain starredExpression]
  | starredExpression => [shaped (ofOne .starred) (all ["*", bitOr]), plain expression]
  | items => [plain (all [listed item, maybe ","])]
  | item => [shaped (ofOne .starred) (all ["*", bitOr]), plain namedExpression]
  | assignment => [formed .assignment (all [aName, ":=", expression])]
  | namedExpression =>
    [plain assignment, mistakeIn assignmentMistake, plain (all [expression, absent ":="])]
  | disjunction =>
    [formed .operation (all [conjunction, repeated (all ["or", conjunction])]), plain conjunction]
  | conjunction =>
    [formed .operation (all [inversion, repeated (all ["and", inversion])]), plain inversion]
  | inversion => [formed .operation (all ["not", inversion]), plain comparison]
  | comparison =>
    [shaped (ofOne .membership) (all [bitOr, "in", bitOr, many comparisonEnd]),
     formed .comparison (all [bitOr, repeated comparisonEnd]),
     plain bitOr]
  | comparisonEnd =>
    [plain (all ["==", bitOr]), plain (all ["!=", bitOr]), plain (all ["<=", bitOr]),
     plain (all ["<", bitOr]), plain (all [">=", bitOr]), plain (all [">", bitOr]),
     plain (all ["not", "in", bitOr]), plain (all ["in", bitOr]),
     plain (all ["is", "not", bitOr]), plain (all ["is", bitOr])]
  | _ => []

/-- The ways to read operations, down to names and numbers. -/
def operationAlternatives : Rule → List (Alternative Rule)
  | bitOr => [formed .operation (all [bitOr, "|", bitXor]), plain bitXor]
  | bitXor => [formed .operation (all [bitXor, "^", bitAnd]), plain bitAnd]
  | bitAnd => [formed .operation (all [bitAnd, "&", shift]), plain shift]
  | shift => [formed .operation (all [shift, any ["<<", ">>"], sum]), plain sum]
  | sum => [shaped (ofTwo .sum) (all [sum, any ["+", "-"], term]), plain term]
  | term =>
    [formed .operation (all [term, any ["*", "/", "//", "%", "@"], factor]), plain factor]
  | factor =>
    [shaped (ofOne .signed) (all [any ["+", "-"], factor]), formed .operation (all ["~", factor]),
     plain power]
  | power => [formed .operation (all [awaited, "**", factor]), plain awaited]
  | awaited => [formed .awaiting (all ["await", primary]), plain primary]
  | primary =>
    [formed .member (all [primary, ".", aName]),
     formed .call (all [primary, generator]),
     shaped callOf (all [primary, "(", maybe arguments, ")"]),
     plain atom]
  | atom =>
    [plain aName,
     shaped (fun _ => .constant .yes) "True",
     shaped (fun _ => .constant .no) "False",
     shaped (fun _ => .constant .nothing) "None",
     plain (all [ahead (.kind .text), texts]),
     plain (.kind .number),
     plain (all [ahead "(", any [tuple, group, generator]]),
     plain (all [ahead "\x7b", any [dictionary, setDisplay, dictionaryComprehension,
       setComprehension]]),
     shaped (fun _ => .constant .ellipsis) "..."]
  | _ => []

/-- The ways to read what stands in brackets. -/
def bracketAlternatives : Rule → List (Alternative Rule)
  | group => [plain (all ["(", any [yielding, namedExpression], ")"]), mistakeIn groupMistake]
  | tuple => [shaped .tuple (all ["(", maybe (all [item, ",", maybe items]), ")"])]
  | setDisplay => [shaped .set (all ["\x7b", items, "\x7d"])]
  | dictionary =>
    [shaped .dictionary (all ["\x7b", maybe entries, "\x7d"]),
     plain (all ["\x7b", entriesMistake, "\x7d"])]
  | entries => [plain (all [listed entry, maybe ","])]
  | entry => [shaped (ofOne .spread) (all ["**", bitOr]), plain pair]
  | pair => [shaped (ofTwo .entry) (all [expression, ":", expression])]
  | clauses => [unnamed (repeated clause)]
  | clause =>
    [{ lead := some (all ["async", "for", targets, "in"])
       pattern := all [disjunction, many (all ["if", disjunction])] },
     { lead := some (all ["for", targets, "in"])
       pattern := all [disjunction, many (all ["if", disjunction])] },
     mistakeIn targetMistake]
  | setComprehension =>
    [formed .setComprehension (all ["\x7b", namedExpression, clauses, "\x7d"]),
     mistakeIn comprehensionMistake]
  | generator =>
    [formed .generator (all ["(", value, clauses, ")"]), mistakeIn comprehensionMistake]
  | dictionaryComprehension =>
    [formed .dictionaryComprehension (all ["\x7b", pair, clauses, "\x7d"]),
     mistakeIn dictionaryComprehensionMistake]
  | arguments =>
    [plain (all [argumentList, maybe ",", ahead ")"]), mistakeIn argumentsMistake]
  | argumentList =>
    [plain (all [listed (any [starredArgument, all [value, absent "="]]),
       maybe (all [",", keywordArguments])]),
     plain keywordArguments]
  | keywordArguments =>
    [plain (all [listed keywordOrStarred, ",", listed keywordOrSpread]),
     plain (listed keywordOrStarred),
     plain (listed keywordOrSpread)]
  | starredArgument =>
    [shaped (ofOne .starred) (all ["*", expression]), mistake .loneStar "*"]
  | keywordOrStarred =>
    [mistakeIn keywordMistake,
     shaped (fun _ => .keyword) (all [aName, "=", expression]),
     plain starredArgument]
  | keywordOrSpread =>
    [mistakeIn keywordMistake,
     shaped (fun _ => .keyword) (all [aName, "=", expression]),
     shaped (ofOne .spread) (all ["**", expression])]
  | _ => []

/-- The ways to read what a loop assigns to. -/
def targetAlternatives : Rule → List (Alternative Rule)
  | targets =>
    [plain (all [target, absent ","]),
     plain (all [target, many (all [",", target]), maybe ","])]
  | targetTuple =>
    [plain (all [target, repeated (all [",", target]), maybe ","]), plain (all [target, ","])]
  | target => [plain (all ["*", absent "*", target]), plain memberTarget]
  | memberTarget =>
    [plain (all [targetStart, ".", aName, absent targetGoesOn]), plain targetAtom]
  | targetAtom =>
    [plain aName, plain (all ["(", memberTarget, ")"]), plain (all ["(", maybe targetTuple, ")"])]
  | targetStart =>
    [plain (all [targetStart, ".", aName, ahead targetGoesOn]),
     plain (all [targetStart, generator, ahead targetGoesOn]),
     plain (all [targetStart, "(", maybe arguments, ")", ahead targetGoesOn]),
     plain (all [atom, ahead targetGoesOn])]
  | targetGoesOn => [plain "(", plain "."]
  | _ => []

/-- The ways to read anonymous functions. -/
def functionAlternatives : Rule → List (Alternative Rule)
  | function => [formed .function (all ["lambda", maybe parameters, ":", expression])]
  | parameters => [mistakeIn parametersMistake, plain parameterList]
  | parameterList =>
    [plain (all [plainBeforeSlash, many plainParameter, many defaultParameter,
       maybe starParameters]),
     plain (all [defaultBeforeSlash, many defaultParameter, maybe starParameters]),
     plain (all [repeated plainParameter, many defaultParameter, maybe starParameters]),
     plain (all [repeated defaultParameter, maybe starParameters]),
     plain starParameters]
  | plainBeforeSlash =>
    [plain (all [repeated plainParameter, "/", ","]),
     plain (all [repeated plainParameter, "/", ahead ":"])]
  | defaultBeforeSlash =>
    [plain (all [many plainParameter, repeated defaultParameter, "/", ","]),
     plain (all [many plainParameter, repeated defaultParameter, "/", ahead ":"])]
  | starParameters =>
    [mistakeIn starParametersMistake,
     plain (all ["*", plainParameter, many anyParameter, maybe spreadParameter]),
     plain (all ["*", ",", repeated anyParameter, maybe spreadParameter]),
     plain spreadParameter]
  | spreadParameter => [mistakeIn spreadParameterMistake, plain (all ["**", plainParameter])]
  | plainParameter => [plain (all [aName, ","]), plain (all [aName, ahead ":"])]
  | defaultParameter =>
    [plain (all [aName, defaultValue, ","]), plain (all [aName, defaultValue, ahead ":"])]
  | anyParameter =>
    [plain (all [aName, maybe defaultValue, ","]),
     plain (all [aName, maybe defaultValue, ahead ":"])]
  | defaultValue => [plain (all ["=", expression]), mistakeIn defaultMistake]
  | _ => []

/-! ## Mistakes -/

/-- A name that starts, or is, a word of a statement. -/
def statementWord : Pattern Rule :=
  any ["_", "c", "ca", "cas", "case", "m", "ma", "mat", "matc", "match"]

/-- Two expressions stand side by side where a bracket is open. -/
def missingComma : Alternative Rule where
  pattern := all
    [absent (any [all [aName, .kind .text], statementWord]), disjunction, plainExpression]
  verdict depth phrases :=
    if (calledWithoutBrackets? phrases).isSome || depth = 0 then .refuse
    else .stop (.order .missingComma)

/-- The mistakes in expressions, and in what stands in brackets. -/
def mistakeAlternatives : Rule → List (Alternative Rule)
  | expressionMistake =>
    [missingComma,
     mistake .missingElse (all [disjunction, "if", disjunction, absent (any ["else", ":"])])]
  | plainExpression =>
    [formed .conditional (all [disjunction, "if", disjunction, "else", expression]),
     plain disjunction,
     plain function]
  | callMistake =>
    [mistakeIf (fun phrases => (calledWithoutBrackets? phrases).map .missingBrackets)
      (all [aName, absent "(", starredExpressions])]
  | assignmentMistake =>
    [mistakeOfFirst .namedAssignment (all [expression, ":=", expression]),
     mistake .equalsSign (all [aName, "=", bitOr, noEquals]),
     mistakeOfFirst .assignmentHere
       (all [absent (any [tuple, generator, "True", "None", "False"]), bitOr, "=", bitOr,
         noEquals])]
  | groupMistake =>
    [mistake .starHere (all ["(", starredArgument, ")"]),
     mistake .spreadHere (all ["(", "**", expression, ")"])]
  | comprehensionMistake =>
    [mistake .starInComprehension (all [any ["(", "\x7b"], starredArgument, clauses]),
     mistake .bareTarget (all ["\x7b", item, ",", items, clauses]),
     mistake .bareTarget (all ["\x7b", item, ",", clauses])]
  | dictionaryComprehensionMistake =>
    [mistake .spreadInComprehension (all ["\x7b", "**", bitOr, clauses, "\x7d"])]
  | entriesMistake =>
    [plain (all [listed entry, ",", pairMistake]),
     mistake .starInEntry (all [expression, ":", "*", bitOr]),
     mistake .missingValue (all [expression, ":", ahead (any ["\x7d", ","])])]
  | pairMistake =>
    [mistake .missingColon (all [expression, absent ":"]),
     mistake .starInEntry (all [expression, ":", "*", bitOr]),
     mistake .missingValue (all [expression, ":", ahead (any ["\x7d", ","])])]
  | argumentsMistake =>
    let positional := listed (any [starredArgument, all [value, absent "="]])
    [mistake .starAfterSpread
       (all [any [all [positional, ",", keywordArguments], keywordArguments], ",",
         listed (all [starredArgument, absent "="])]),
     mistake .bareGenerator
       (all [expression, clauses, ",", maybe (any [argumentList, all [expression, clauses]])]),
     mistake .equalsSign (all [aName, "=", expression, clauses]),
     mistakeIf (fun phrases =>
         if 1 < (phrases.filter Phrase.isPositional).length then some .bareGenerator else none)
       (all [argumentList, clauses]),
     mistake .bareGenerator (all [argumentList, ",", expression, clauses]),
     mistakeIf (fun phrases => some
         (if phrases.any Phrase.isSpread then .positionalAfterSpread else .positionalAfterKeyword))
       (all [argumentList, ",", silent argumentList])]
  | keywordMistake =>
    [mistake (.assignmentTo "True") (all ["True", "="]),
     mistake (.assignmentTo "False") (all ["False", "="]),
     mistake (.assignmentTo "None") (all ["None", "="]),
     mistake .equalsSign (all [aName, "=", expression, clauses]),
     mistake .assignmentInCall (all [absent (all [aName, "="]), expression, "="])]
  | targetMistake =>
    [mistakeIf (fun phrases =>
         (firstUnassignable? phrases).map fun phrase => .assignmentTo phrase.called)
       (all [maybe "async", "for", starredExpressions])]
  | _ => []

/-- The mistakes in the parameters of functions. -/
def parameterMistakeAlternatives : Rule → List (Alternative Rule)
  | parametersMistake =>
    let beforeSlash := any [plainBeforeSlash, defaultBeforeSlash]
    let afterStar := any [",", plainParameter]
    [mistake .defaultOrder (all [many plainParameter, defaultsBefore, plainParameter]),
     mistake .bracketsAroundParameters
       (all [many plainParameter, "(", listed aName, maybe ",", ")"]),
     mistake .slashFirst (all ["/", ","]),
     mistake .slashTwice (all [beforeSlash, many anyParameter, "/"]),
     mistake .slashAfterStar
       (all [maybe beforeSlash, many anyParameter, "*", afterStar, many anyParameter, "/"]),
     mistake .slashBeforeStar (all [repeated anyParameter, "/", "*"])]
  | defaultsBefore => [plain defaultBeforeSlash, plain (repeated defaultParameter)]
  | starParametersMistake =>
    let afterStar := any [plainParameter, ","]
    [mistake .bareStar (all ["*", any [":", all [",", any [":", "**"]]]]),
     mistake .starDefault (all ["*", aName, "="]),
     mistake .starTwice (all ["*", afterStar, many anyParameter, "*", afterStar])]
  | spreadParameterMistake =>
    [mistake .spreadDefault (all ["**", aName, "="]),
     mistake .afterSpreadParameter (all ["**", aName, ",", aName]),
     mistake .afterSpreadParameter (all ["**", aName, ",", any ["*", "**", "/"]])]
  | defaultMistake => [mistake .missingDefault (all ["=", ahead (any [")", ","])])]
  | _ => []

/-! ## The grammar -/

/-- How the readings of a rule are kept. -/
def Rule.keeping : Rule → Keeping
  | bitOr | bitXor | bitAnd | shift | sum | term | primary | targetStart => .growing
  | expression | starredExpression | disjunction | conjunction | inversion | factor | awaited
  | texts | arguments | target | memberTarget | assignmentMistake => .remembered
  | _ => .forgotten

/-- The grammar, given the complaints of pieces of text into which expressions are put. -/
def grammar (formattedFault? : Piece → Option Complaint) : Grammar Rule where
  alternatives rule :=
    conditionAlternatives rule ++ operationAlternatives rule ++ bracketAlternatives rule
      ++ targetAlternatives rule ++ functionAlternatives rule ++ mistakeAlternatives rule
      ++ parameterMistakeAlternatives rule
      ++ if rule = texts then
          [{ pattern := repeated (.kind .text)
             verdict := fun _ pieces =>
               match joinPieces formattedFault? pieces with
               | .ok phrase => .give [phrase]
               | .error complaint => .stop (.order complaint) }]
        else []
  keeping := Rule.keeping
  isLenient rule := rule = plainExpression

/-- The number that a token stands for. -/
def numberOf (text : List Char) : Except Complaint Constant :=
  let digits := text.filter (· != '_')
  let value (base : Nat) (digits : List Char) :=
    digits.foldl (fun n c => n * base + (hexValue? c).getD 0) 0
  match digits with
  | '0' :: 'x' :: digits | '0' :: 'X' :: digits => .ok (.integer (value 16 digits))
  | '0' :: 'o' :: digits | '0' :: 'O' :: digits => .ok (.integer (value 8 digits))
  | '0' :: 'b' :: digits | '0' :: 'B' :: digits => .ok (.integer (value 2 digits))
  | digits =>
    if digits.getLast? = some 'j' || digits.getLast? = some 'J' then .ok .imaginary
    else if !digits.all Char.isDigit then .ok .real
    else if digits.head? != some '0' && digitLimit < digits.length then
      .error (.longInteger digits.length)
    else .ok (.integer (value 10 digits))

/-- The phrases that a token gives. -/
def phrasesOf (token : Token) : Except Stop (List Phrase) :=
  match token.kind with
  | .name => .ok [.name token.text]
  | .text => .ok [.piece token.text token.line]
  | .number =>
    match numberOf token.text.toList with
    | .ok value => .ok [.constant value]
    | .error complaint => .error (.order complaint)
  | _ => .ok []

/-- How many rules may be inside one another between two tokens. -/
def rulesPerToken : Nat := 100

/-- Read a text that starts on a line by a rule. -/
def readBy (rule : Rule) (formattedFault? : Piece → Option Complaint) (line : Nat)
    (text : List Char) : Except Stop (List Phrase) :=
  let (tokens, ending) := tokensOf line text
  let source : Source := { tokens := tokens.toArray, ending }
  (grammar formattedFault?).parse phrasesOf rule (rulesPerToken * (source.tokens.size + 2)) source

end SourceOutline.Literal
