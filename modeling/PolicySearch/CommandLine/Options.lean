/-! Options and arguments of a command line. A long option has its value behind an equals sign or
in the next word; letters can stand together after one dash, and what follows a letter that wants
a value is the value. Two dashes end the options. -/
namespace PolicySearch

structure OptionSpec where
  word : String
  letter : Option Char := none
  takesValue : Bool := false
  deriving DecidableEq, Repr

inductive Screen where
  | help
  | usage
  deriving DecidableEq, Repr

structure Parsed where
  given : List (String × String) := []
  arguments : List String := []
  deriving DecidableEq, Repr

namespace Parsed

def prepend (given : List (String × String)) (p : Parsed) : Parsed :=
  { p with given := given ++ p.given }

def withArgument (argument : String) (p : Parsed) : Parsed :=
  { p with arguments := argument :: p.arguments }

/-- The value of an option; the last one counts. -/
def value? (p : Parsed) (word : String) : Option String := p.given.reverse.lookup word

def has (p : Parsed) (word : String) : Bool := (p.value? word).isSome

end Parsed

structure OptionWord where
  given : List (String × String)
  wanting : Option String := none
  deriving DecidableEq, Repr

namespace OptionSpec

def helpWord : OptionSpec := { word := "--help" }

def readLetters (specs : List OptionSpec) : List Char → Option OptionWord
  | [] => some { given := [] }
  | c :: rest => do
    let spec ← specs.find? (·.letter == some c)
    if spec.takesValue then
      if rest.isEmpty then some { given := [], wanting := some spec.word }
      else some { given := [(spec.word, String.ofList rest)] }
    else
      let more ← readLetters specs rest
      some { more with given := (spec.word, "") :: more.given }

def splitValue (word : List Char) : String × Option String :=
  (String.ofList (word.takeWhile (· != '=')),
    match word.dropWhile (· != '=') with
    | _ :: value => some (String.ofList value)
    | [] => none)

def readWord (specs : List OptionSpec) (word : List Char) : Option OptionWord :=
  let (name, value) := splitValue word
  match specs.find? (·.word == name), value with
  | some spec, value =>
    match spec.takesValue, value with
    | true, some text => some { given := [(spec.word, text)] }
    | true, none => some { given := [], wanting := some spec.word }
    | false, none => some { given := [(spec.word, "")] }
    | false, some _ => none
  | none, _ => if ['-', '-'].isPrefixOf word then none else readLetters specs (word.drop 1)

def isOption : List Char → Bool
  | '-' :: _ :: _ => true
  | _ => false

/-- Reads a command line. Unless arguments and options may be mixed, the first argument ends the
options. -/
def parse (specs : List OptionSpec) (mixed : Bool) : List String → Except Screen Parsed
  | [] => .ok {}
  | word :: rest =>
    if word = "--" then .ok { arguments := rest }
    else if isOption word.toList then
      match readWord specs word.toList with
      | none => .error .usage
      | some { given := given, wanting := none } => (parse specs mixed rest).map (·.prepend given)
      | some { given := given, wanting := some name } =>
        match rest with
        | [] => .error .usage
        | value :: rest => (parse specs mixed rest).map (·.prepend (given ++ [(name, value)]))
    else if mixed then (parse specs mixed rest).map (·.withArgument word)
    else .ok { arguments := word :: rest }

def parseOrHelp (specs : List OptionSpec) (mixed : Bool) (words : List String) :
    Except Screen Parsed := do
  let parsed ← parse (specs ++ [helpWord]) mixed words
  if parsed.has helpWord.word then .error .help else .ok parsed

end OptionSpec

end PolicySearch
