import SourceOutline.Text.Split

set_option autoImplicit false

/-! # Command-line arguments

The words of a command line are options and positional words. An option with a long name takes its
value from after an equals sign or from the next word; options with one-letter names may be run
together, and the first of them that takes a value takes the rest of the word, or the next word.
After two dashes every word is positional. -/

namespace SourceOutline.Command

/-- An option that a command knows: its name, its letter if it has one, and whether it takes a
    value. -/
structure OptionSpec where
  name : String
  letter : Option Char := none
  takesValue : Bool := true

/-- The words of a command line, told apart: options by their names, with the values of those that
    take one, and positional words, both in order. -/
structure Arguments where
  options : List (String × String) := []
  positional : List String := []

/-- The last value given for an option. -/
def Arguments.value? (arguments : Arguments) (name : String) : Option String :=
  arguments.options.reverse.lookup name

/-- All values given for an option. -/
def Arguments.values (arguments : Arguments) (name : String) : List String :=
  arguments.options.filterMap fun option => if option.1 = name then some option.2 else none

/-- Whether an option is given. -/
def Arguments.has (arguments : Arguments) (name : String) : Bool :=
  arguments.options.any (·.1 == name)

/-- What the options in one word are: complete, or wanting the next word as the value of the last
    one. -/
inductive OptionWord where
  | complete (options : List (String × String))
  | wanting (options : List (String × String)) (name : String)

/-- Put an option in front of those of a word. -/
def OptionWord.cons (option : String × String) : OptionWord → OptionWord
  | complete options => complete (option :: options)
  | wanting options name => wanting (option :: options) name

/-- The options that letters run together stand for. -/
def readLetters (specs : List OptionSpec) : List Char → Option OptionWord
  | [] => some (.complete [])
  | letter :: rest => do
    let spec ← specs.find? (·.letter == some letter)
    if spec.takesValue then
      if rest.isEmpty then return .wanting [] spec.name
      else return .complete [(spec.name, String.ofList rest)]
    else return (← readLetters specs rest).cons (spec.name, "")

/-- The option that a word stands for by its long name. -/
def readLongName (specs : List OptionSpec) (word : List Char) : Option OptionWord := do
  let name := word.takeWhile (· != '=')
  let spec ← specs.find? fun spec => "--" ++ spec.name == String.ofList name
  match word.drop name.length, spec.takesValue with
  | [], true => return .wanting [] spec.name
  | [], false => return .complete [(spec.name, "")]
  | _ :: value, true => return .complete [(spec.name, String.ofList value)]
  | _ :: _, false => none

/-- The options in a word that starts with a dash. -/
def readOptionWord (specs : List OptionSpec) : List Char → Option OptionWord
  | '-' :: '-' :: rest => readLongName specs ('-' :: '-' :: rest)
  | word => readLetters specs (word.drop 1)

/-- Whether a word holds options: it starts with a dash and is longer than that. -/
def isOptionWord (word : List Char) : Bool :=
  match word with
  | '-' :: _ :: _ => true
  | _ => false

/-- Tell the words of a command line apart, unless an option is unknown, lacks its value or has one
    that it does not take. If options may not follow positional words, all words from the first
    positional one on are positional. -/
def readArguments (specs : List OptionSpec) (interspersed : Bool) :
    List String → Option Arguments
  | [] => some {}
  | word :: rest =>
    if word = "--" then some { positional := rest }
    else if isOptionWord word.toList then do
      match ← readOptionWord specs word.toList with
      | .complete options =>
        let others ← readArguments specs interspersed rest
        return { others with options := options ++ others.options }
      | .wanting options name =>
        match rest with
        | [] => none
        | value :: rest =>
          let others ← readArguments specs interspersed rest
          return { others with options := options ++ (name, value) :: others.options }
    else if interspersed then do
      let others ← readArguments specs interspersed rest
      return { others with positional := word :: others.positional }
    else some { positional := word :: rest }

end SourceOutline.Command
