import FacetRules.CommandLine.Value
import FacetRules.Text.Split

/-!
# The words of a command line

Options are written with one hyphen and a letter or with two hyphens and a name.
Letters of options without a value can be written in one word, also in front of an
option with a value.  A value stands in the same word, with or without an equals
sign behind a letter and with one behind a name, or it is the next word, which must
not look like an option itself; a lone hyphen does not.  Two hyphens by themselves
end the options.

Words are read from left to right and stop at the first mistake, or at a request
for help.  An option whose value is a word of its own is checked when the next
option or the end of the words is reached.
-/

namespace FacetRules
namespace CommandLine

inductive OptionKind
  | flag
  | valued (value : ValueKind)
  | help
  deriving DecidableEq, Repr

structure OptionSpec where
  name : String
  letter : Option Char := none
  kind : OptionKind
  repeatable : Bool := false
  deriving DecidableEq, Repr

inductive Stop
  | usage
  | help
  deriving DecidableEq, Repr

/-- An option that is given; a flag has no value. -/
structure Given where
  name : String
  value : Option String := none
  deriving DecidableEq, Repr

def isGiven (name : String) (given : List Given) : Bool :=
  given.any (·.name == name)

def valuesOf (name : String) (given : List Given) : List String :=
  (given.filter (·.name == name)).filterMap Given.value

/-! ## Options -/

/-- Adds an option to those that are given.  Its value has to be what it should, and
it must not be given already unless it may be repeated. -/
def OptionSpec.settle (spec : OptionSpec) (value : Option String) (given : List Given) :
    Except Stop (List Given) :=
  match spec.kind, value with
  | .help, none => .error .help
  | .flag, none =>
      if isGiven spec.name given then .error .usage else .ok (given ++ [{ name := spec.name }])
  | .valued kind, some text =>
      if !kind.accepts text || (!spec.repeatable && isGiven spec.name given) then
        .error .usage
      else
        .ok (given ++ [{ name := spec.name, value }])
  | _, _ => .error .usage

structure Reading where
  given : List Given := []
  /-- The option whose value is a word of its own, and that word if it is read. -/
  waiting : Option (OptionSpec × Option String) := none
  deriving DecidableEq, Repr

namespace Reading

def settle (r : Reading) : Except Stop (List Given) :=
  match r.waiting with
  | none => .ok r.given
  | some (spec, value) => spec.settle value r.given

def take (r : Reading) (spec : OptionSpec) (value : Option String) : Except Stop Reading := do
  let given <- r.settle
  let given <- spec.settle value given
  return { given }

def await (r : Reading) (spec : OptionSpec) : Except Stop Reading := do
  let given <- r.settle
  return { given, waiting := some (spec, none) }

end Reading

/-! ## Words -/

def looksLikeOption (word : String) : Bool :=
  match word.toList with
  | ['-'] => false
  | '-' :: _ => true
  | _ => false

def readLetters (specs : List OptionSpec) : List Char -> Reading -> Except Stop Reading
  | [], r => .ok r
  | c :: cs, r =>
      match specs.find? (·.letter == some c) with
      | none => .error .usage
      | some spec =>
          match spec.kind, cs with
          | .valued _, [] => r.await spec
          | .valued _, '=' :: value => r.take spec (some (String.ofList value))
          | .valued _, value => r.take spec (some (String.ofList value))
          | _, cs => do readLetters specs cs (<- r.take spec none)

def readName (specs : List OptionSpec) (cs : List Char) (r : Reading) : Except Stop Reading :=
  let (name, value) :=
    match Text.splitFirst '=' cs with
    | some (name, value) => (String.ofList name, some (String.ofList value))
    | none => (String.ofList cs, none)
  match specs.find? (·.name == name) with
  | none => .error .usage
  | some spec =>
      match spec.kind, value with
      | .valued _, none => r.await spec
      | _, value => r.take spec value

def readOption (specs : List OptionSpec) (word : String) (r : Reading) : Except Stop Reading :=
  match word.toList with
  | '-' :: '-' :: cs => readName specs cs r
  | '-' :: cs => readLetters specs cs r
  | _ => .error .usage

/-- Reads options up to the first word that belongs to none.  Gives what is read and the
words from there on. -/
def readWords (specs : List OptionSpec) :
    List String -> Reading -> Except Stop (Reading × List String)
  | [], r => .ok (r, [])
  | word :: words, r =>
      if word == "--" then
        if words.isEmpty then .ok (r, []) else .error .usage
      else if looksLikeOption word then do
        readWords specs words (<- readOption specs word r)
      else
        match r.waiting with
        | some (spec, none) =>
            readWords specs words { r with waiting := some (spec, some word) }
        | _ => .ok (r, word :: words)

end CommandLine
end FacetRules
