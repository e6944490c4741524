import FacetRules.CommandLine.Words

/-!
# Invocations

A command line names one of three commands.  Some options belong to all commands
and can stand in front of the command or behind it; one that is given in both
places counts behind it.  An option that waits for its check in front of the command
is checked after everything behind it.  The word help asks for help, and the name of
a command may follow it.
-/

namespace FacetRules
namespace CommandLine

inductive Command
  | importTables (dump : Option CategoryId)
  | find (category : CategoryId) (pairs : List String) (page : Option UInt64)
      (filter : Option String) (json : Bool)
  | dump (category : Option CategoryId) (maxLines : Option UInt64)
  deriving DecidableEq, Repr

structure Invocation where
  dataDir : Option String := none
  categoriesFile : Option String := none
  expand : UInt64 := 0
  settingsDir : Option String := none
  verbose : Bool := false
  command : Command
  deriving DecidableEq, Repr

/-! ## The options -/

def commonSpecs : List OptionSpec :=
  [{ name := "data", letter := some 'd', kind := .valued .path },
    { name := "cats", letter := some 'c', kind := .valued .path },
    { name := "expand-db", kind := .valued .count },
    { name := "config", kind := .valued .path },
    { name := "verbose", letter := some 'v', kind := .flag },
    { name := "help", letter := some 'h', kind := .help }]

def importSpecs : List OptionSpec :=
  [{ name := "dump", kind := .valued .category }]

def findSpecs : List OptionSpec :=
  [{ name := "cid", kind := .valued .category },
    { name := "attr", letter := some 'a', kind := .valued .text, repeatable := true },
    { name := "page", kind := .valued .count },
    { name := "filter", kind := .valued .text },
    { name := "json", kind := .flag }]

def dumpSpecs : List OptionSpec :=
  [{ name := "cid", kind := .valued .category },
    { name := "max-lines", kind := .valued .count }]

def valueOf {α : Type} (name : String) (read : String -> Option α) (given : List Given) :
    Option α :=
  (valuesOf name given).getLast?.bind read

/-! ## The command line -/

/-- Reads the options behind a command.  No other words may follow. -/
def readAll (specs : List OptionSpec) (words : List String) : Except Stop (List Given) := do
  let (reading, rest) <- readWords specs words {}
  if rest.isEmpty then
    reading.settle
  else
    .error .usage

def readImport (words : List String) : Except Stop (List Given × Command) := do
  let given <- readAll (commonSpecs ++ importSpecs) words
  return (given, .importTables (valueOf "dump" categoryValue given))

def readFind (words : List String) : Except Stop (List Given × Command) := do
  let given <- readAll (commonSpecs ++ findSpecs) words
  match valueOf "cid" categoryValue given with
  | some category =>
      return (given, .find category (valuesOf "attr" given) (valueOf "page" countValue given)
        (valueOf "filter" textValue given) (isGiven "json" given))
  | none => .error .usage

def readDump (words : List String) : Except Stop (List Given × Command) := do
  let given <- readAll (commonSpecs ++ dumpSpecs) words
  return (given,
    .dump (valueOf "cid" categoryValue given) (valueOf "max-lines" countValue given))

def helpTopics : List String :=
  ["import", "find", "dump", "help"]

/-- Reads what follows a request for help: at most one topic. -/
def readHelp : List String -> Stop
  | [] => .help
  | [topic] => if helpTopics.contains topic then .help else .usage
  | _ => .usage

def readCommand : List String -> Except Stop (List Given × Command)
  | "import" :: words => readImport words
  | "find" :: words => readFind words
  | "dump" :: words => readDump words
  | "help" :: words => .error (readHelp words)
  | _ => .error .usage

def read (words : List String) : Except Stop Invocation := do
  let (reading, rest) <- readWords commonSpecs words {}
  let (back, command) <- readCommand rest
  let front <- reading.settle
  let pathOf (name : String) : Option String :=
    (valueOf name pathValue back).or (valueOf name pathValue front)
  return {
    dataDir := pathOf "data"
    categoriesFile := pathOf "cats"
    expand :=
      ((valueOf "expand-db" countValue back).or (valueOf "expand-db" countValue front)).getD 0
    settingsDir := pathOf "config"
    verbose := isGiven "verbose" front || isGiven "verbose" back
    command }

end CommandLine
end FacetRules
