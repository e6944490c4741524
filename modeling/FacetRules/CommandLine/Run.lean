import FacetRules.CommandLine.Invocation
import FacetRules.CommandLine.Terminal
import FacetRules.Json.Printer
import FacetRules.Settings
import FacetRules.Wire.Visible

/-!
# Running a command line

Every command imports the tables first.  Settings that cannot be read are passed
over.  What was printed before an error stays printed.
-/

namespace FacetRules
namespace CommandLine

structure Environment where
  storage : Storage
  /-- The directory of the settings when the command line names none. -/
  settingsDir : Option String := none
  color : Bool := false

structure Outcome where
  exit : UInt8 := 0
  stdout : String := ""
  stderr : String := ""
  deriving DecidableEq, Repr

def usageText : String :=
  unlines
    ["Usage: [OPTIONS] <COMMAND>",
      "",
      "Commands:",
      "  import [--dump <category>]",
      "  find --cid <category> [-a <attribute>-<option>]... [--page <size>]",
      "       [--filter <attribute>:<prefix>] [--json]",
      "  dump [--cid <category>] [--max-lines <count>]",
      "",
      "Options:",
      "  -d, --data <directory>",
      "  -c, --cats <file>",
      "      --expand-db <passes>",
      "      --config <directory>",
      "  -v, --verbose",
      "  -h, --help"]

/-- The outcome of an error, after this much was printed. -/
def failure (stdout : String) (e : Error) : Outcome where
  exit := 1
  stdout := stdout
  stderr := "Error: " ++ e.message ++ "\n"

def settingsDirOf (env : Environment) (inv : Invocation) : Option String :=
  inv.settingsDir.or env.settingsDir

def settingsOf (env : Environment) (inv : Invocation) : Settings :=
  match settingsDirOf env inv with
  | none => {}
  | some dir =>
      match Settings.load env.storage dir with
      | .ok settings => settings
      | .error _ => {}

def importOptionsOf (env : Environment) (inv : Invocation) : Except Error ImportOptions :=
  (settingsOf env inv).importOptions inv.dataDir inv.categoriesFile inv.expand

def printDump (env : Environment) (service : Service) (options : DumpOptions)
    (stdout : String) : Outcome :=
  match service.dump options with
  | .error e => failure stdout e
  | .ok answer =>
      { stdout := stdout ++ answer.dump.getD "" ++
          unlines (messageLines env.color answer.messages) }

def printFind (env : Environment) (service : Service) (q : Conditions) (json : Bool) : Outcome :=
  match service.find q with
  | .error e => failure "" e
  | .ok answer =>
      match answer.visible with
      | none => {}
      | some visible =>
          let messages := messageLines env.color answer.messages
          if json then
            { stdout := (Wire.ofVisible visible).print ++ "\n"
              stderr := unlines messages }
          else
            { stdout := unlines (visibleLines env.color visible ++ messages) }

def conditionsOf (settings : Settings) (category : CategoryId) (pairs : List String)
    (page : Option UInt64) (filter : Option String) : Except Error Conditions := do
  let pairs <- pairs.mapM Pair.read
  let filters <- filter.toList.mapM TitleFilter.read
  return {
    categoryIds := [category]
    pairs
    pageSize := page.getD settings.pageSize
    filters }

def carryOut (env : Environment) (settings : Settings) (service : Service) (imported : Answer) :
    Command -> Outcome
  | .importTables category =>
      let stdout := unlines (messageLines env.color imported.messages)
      match category with
      | none => { stdout }
      | some id =>
          printDump env service { category := some id, maxLines := settings.dumpMaxLines } stdout
  | .find category pairs page filter json =>
      match conditionsOf settings category pairs page filter with
      | .error e => failure "" e
      | .ok q => printFind env service q json
  | .dump category maxLines =>
      printDump env service { category, maxLines := maxLines.getD settings.dumpMaxLines } ""

def runInvocation (env : Environment) (inv : Invocation) : Outcome :=
  match importOptionsOf env inv with
  | .error e => failure "" e
  | .ok options =>
      match Service.importTables ∅ env.storage options with
      | (.error e, _) => failure "" e
      | (.ok imported, service) =>
          carryOut env (settingsOf env inv) service imported inv.command

def run (env : Environment) (words : List String) : Outcome :=
  match read words with
  | .ok inv => runInvocation env inv
  | .error .help => { stdout := usageText }
  | .error .usage => { exit := 2, stderr := usageText }

end CommandLine
end FacetRules
