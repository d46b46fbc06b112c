import SourceOutline.Literal.Complaint
import SourceOutline.Literal.Lexer
import SourceOutline.Literal.Phrase
import Std.Data.HashMap

set_option autoImplicit false

/-! # Patterns of tokens

A grammar gives every rule a list of alternatives, and the first one that fits is taken. What a rule
gives at a place can be remembered. A rule may start with itself: it is then read again and again,
each time with the last reading as its start, as long as it goes further.

Some alternatives describe mistakes. They are tried only when a first reading has failed. -/

namespace SourceOutline.Literal

/-! ## Grammars -/

/-- A pattern of tokens, over the rules of a grammar. -/
inductive Pattern (Rule : Type) where
  | nothing
  /-- A keyword or an operator. -/
  | word (word : String)
  /-- A token of a kind; a name that is no keyword. -/
  | kind (kind : TokenKind)
  | rule (rule : Rule)
  | both (first second : Pattern Rule)
  | either (first second : Pattern Rule)
  | many (item : Pattern Rule)
  | ahead (pattern : Pattern Rule)
  | absent (pattern : Pattern Rule)
  /-- Read a pattern and give nothing of it. -/
  | silent (pattern : Pattern Rule)

variable {Rule : Type}

instance : Coe String (Pattern Rule) := ⟨.word⟩
instance : Coe Rule (Pattern Rule) := ⟨.rule⟩

/-- Patterns one after another. -/
def Pattern.all : List (Pattern Rule) → Pattern Rule
  | [] => .nothing
  | [pattern] => pattern
  | pattern :: rest => .both pattern (all rest)

/-- The first of some patterns that fits. -/
def Pattern.any : List (Pattern Rule) → Pattern Rule
  | [] => .absent .nothing
  | [pattern] => pattern
  | pattern :: rest => .either pattern (any rest)

/-- A pattern or nothing. -/
def Pattern.maybe (pattern : Pattern Rule) : Pattern Rule :=
  .either pattern .nothing

/-- A pattern once or more. -/
def Pattern.repeated (pattern : Pattern Rule) : Pattern Rule :=
  .both pattern (.many pattern)

/-- A pattern once or more, with commas in between. -/
def Pattern.listed (pattern : Pattern Rule) : Pattern Rule :=
  .both pattern (.many (.both "," pattern))

/-- Why reading stops at once. -/
inductive Stop where
  | token (fault : TokenFault)
  | order (complaint : Complaint)
  | tooDeep
deriving Repr, DecidableEq

/-- What becomes of phrases that an alternative has read. -/
inductive Verdict where
  | give (phrases : List Phrase)
  /-- The rule does not fit, whatever its other alternatives are. -/
  | refuse
  | stop (reason : Stop)

/-- One way to read a rule. Once its lead is read, no other way is tried. The verdict is on the
    number of brackets that are open and on the phrases that have been read. -/
structure Alternative (Rule : Type) where
  lead : Option (Pattern Rule) := none
  pattern : Pattern Rule
  verdict : Nat → List Phrase → Verdict := fun _ phrases => .give phrases
  /-- Whether the alternative describes a mistake. -/
  isMistake : Bool := false

/-- How the readings of a rule are kept. -/
inductive Keeping where
  | forgotten
  | remembered
  /-- The rule may start with itself. -/
  | growing
deriving Repr, DecidableEq

/-- The rules of a grammar. -/
structure Grammar (Rule : Type) where
  alternatives : Rule → List (Alternative Rule)
  keeping : Rule → Keeping
  /-- Whether no mistakes are looked for while a rule is read. -/
  isLenient : Rule → Bool

/-! ## Reading -/

/-- The tokens of a text, and how they end. -/
structure Source where
  tokens : Array Token
  ending : Ending

/-- What a reading gives: phrases, and the position after them. -/
abbrev Reading := Option (List Phrase × Nat)

variable [BEq Rule] [Hashable Rule]

/-- What is kept while rules are read: how many tokens have been asked for, and what rules gave. -/
structure Memory (Rule : Type) [BEq Rule] [Hashable Rule] where
  asked : Nat := 0
  readings : Std.HashMap (Rule × Nat) Reading := {}

/-- A reading that may stop and keeps a memory. -/
abbrev Reader (Rule : Type) [BEq Rule] [Hashable Rule] (α : Type) : Type :=
  ExceptT Stop (StateM (Memory Rule)) α

/-- The token at a position. -/
def Source.token? (source : Source) (i : Nat) : Reader Rule (Option Token) := do
  match source.tokens[i]? with
  | some token =>
    modify fun memory => { memory with asked := max memory.asked (i + 1) }
    return token
  | none =>
    match source.ending with
    | .finished => return none
    | .faulty fault | .cutOff fault _ => throw (.token fault)

/-- Read one token that is as wanted. -/
def Source.take (source : Source) (isWanted : Token → Bool)
    (phrases : Token → Except Stop (List Phrase)) (i : Nat) : Reader Rule Reading := do
  match ← source.token? i with
  | none => return none
  | some token =>
    if isWanted token then
      match phrases token with
      | .ok phrases => return some (phrases, i + 1)
      | .error stop => throw stop
    else return none

/-- Read an item as often as it fits, at most as often as given. -/
def readMany (item : Nat → Reader Rule Reading) : Nat → Nat → Reader Rule Reading
  | 0, i => return some ([], i)
  | count + 1, i => do
    match ← item i with
    | none => return some ([], i)
    | some (phrases, i) =>
      match ← readMany item count i with
      | none => return none
      | some (more, i) => return some (phrases ++ more, i)

/-- Read a pattern from a position on. -/
def Pattern.read (source : Source) (phrases : Token → Except Stop (List Phrase))
    (readRule : Rule → Nat → Reader Rule Reading) : Pattern Rule → Nat → Reader Rule Reading
  | .nothing, i => return some ([], i)
  | .word text, i => source.take (·.isWord text) (fun _ => .ok []) i
  | .kind wanted, i =>
    source.take (fun token => token.kind = wanted && (wanted != .name || token.isFree)) phrases i
  | .rule called, i => readRule called i
  | .both first second, i => do
    match ← first.read source phrases readRule i with
    | none => return none
    | some (given, i) =>
      match ← second.read source phrases readRule i with
      | none => return none
      | some (more, i) => return some (given ++ more, i)
  | .either first second, i => do
    match ← first.read source phrases readRule i with
    | none => second.read source phrases readRule i
    | reading => return reading
  | .many item, i => readMany (fun i => item.read source phrases readRule i) source.tokens.size i
  | .ahead pattern, i =>
    return (← pattern.read source phrases readRule i).map fun _ => ([], i)
  | .absent pattern, i =>
    return if (← pattern.read source phrases readRule i).isSome then none else some ([], i)
  | .silent pattern, i =>
    return (← pattern.read source phrases readRule i).map fun (_, i) => ([], i)

/-- Read the first alternative that fits. -/
def readAlternatives (source : Source) (phrases : Token → Except Stop (List Phrase))
    (findMistakes : Bool) (readRule : Rule → Nat → Reader Rule Reading) :
    List (Alternative Rule) → Nat → Reader Rule Reading
  | [], _ => return none
  | alternative :: others, i => do
    if alternative.isMistake && !findMistakes then
      readAlternatives source phrases findMistakes readRule others i
    else
      match ← (alternative.lead.getD .nothing).read source phrases readRule i with
      | none => readAlternatives source phrases findMistakes readRule others i
      | some (given, j) =>
        match ← alternative.pattern.read source phrases readRule j with
        | none =>
          if alternative.lead.isSome then return none
          else readAlternatives source phrases findMistakes readRule others i
        | some (more, j) =>
          let depth := (source.tokens[j - 1]?.map Token.depth).getD 0
          match alternative.verdict depth (given ++ more) with
          | .give phrases => return some (phrases, j)
          | .refuse => return none
          | .stop reason => throw reason

/-- Remember what a rule gives at a position. -/
def remember (rule : Rule) (i : Nat) (reading : Reading) : Reader Rule Unit :=
  modify fun memory => { memory with readings := memory.readings.insert (rule, i) reading }

/-- Read a rule that may start with itself: with the best reading in mind, as long as the next one
    goes further. -/
def growReading (read : Reader Rule Reading) (rule : Rule) (i : Nat) :
    Nat → Reading → Reader Rule Reading
  | 0, best => return best
  | count + 1, best => do
    remember rule i best
    match ← read with
    | none => return best
    | some (phrases, j) =>
      if j ≤ (best.map Prod.snd).getD i then return best
      else growReading read rule i count (some (phrases, j))

/-- Read a rule at a position. Rules may be inside one another to the given depth. -/
def Grammar.read (grammar : Grammar Rule) (source : Source)
    (phrases : Token → Except Stop (List Phrase)) :
    Nat → Bool → Rule → Nat → Reader Rule Reading
  | 0, _, _, _ => throw .tooDeep
  | depth + 1, findMistakes, rule, i => do
    let findMistakes := findMistakes && !grammar.isLenient rule
    let read := readAlternatives source phrases findMistakes
      (grammar.read source phrases depth findMistakes) (grammar.alternatives rule) i
    match grammar.keeping rule with
    | .forgotten => read
    | keeping =>
      match (← get).readings[(rule, i)]? with
      | some reading => return reading
      | none =>
        if keeping = .growing then growReading read rule i (source.tokens.size + 1) none
        else do
          let reading ← read
          remember rule i reading
          return reading

/-! ## The fault of a text -/

/-- A fault that shows only further on: characters that form no token, or brackets that are left
    open, are worse than the order of the tokens before. -/
def Source.laterFault? (source : Source) (asked : Nat) : Option TokenFault :=
  match source.ending with
  | .finished => none
  | .faulty fault => some fault
  | .cutOff _ opened => do
    let (opening, line) ← opened
    let last ← source.tokens[asked - 1]?
    if line < last.line then some (.unclosed opening) else none

/-- A complaint, unless there is a worse fault further on. -/
def Source.worst (source : Source) (asked : Nat) (complaint : Complaint) : Stop :=
  ((source.laterFault? asked).map Stop.token).getD (.order complaint)

/-- The fault that made reading stop. Nothing is looked for further on when the end of the text has
    been met. -/
def Source.faultOf (source : Source) (asked : Nat) : Stop → Stop
  | .order complaint =>
    if (source.tokens[asked - 1]?.map Token.isLast).getD false then .order complaint
    else source.worst asked complaint
  | stop => stop

/-- What the order of tokens gives when no mistake is known: the last token that was asked for does
    not fit. -/
def Source.generalFault (source : Source) (askedFirst asked : Nat) : Stop :=
  match source.tokens[askedFirst - 1]?.map Token.kind with
  | some .indent => .order .indent
  | some .dedent => .order .dedent
  | _ => source.worst asked .invalid

/-- Read a text by a rule: first without regard to mistakes, then, if that fails, with it. -/
def Grammar.parse (grammar : Grammar Rule) (phrases : Token → Except Stop (List Phrase))
    (rule : Rule) (depth : Nat) (source : Source) : Except Stop (List Phrase) :=
  match (grammar.read source phrases depth false rule 0).run {} with
  | (.ok (some (given, _)), _) => .ok given
  | (.error stop, memory) => .error (source.faultOf memory.asked stop)
  | (.ok none, memory) =>
    match (grammar.read source phrases depth true rule 0).run { asked := memory.asked } with
    | (.error stop, later) => .error (source.faultOf later.asked stop)
    | (.ok _, later) => .error (source.generalFault memory.asked later.asked)

end SourceOutline.Literal
