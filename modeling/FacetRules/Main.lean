import FacetRules.CommandLine.Run
import FacetRules.Gzip.Member

/-!
# The program

The files that a command line asks for are read, the command line is run on them,
and what it leaves is printed.

The names in the data directory are listed by the system that the program is run on.
Every listed file whose name begins as a table's does is read.
-/

namespace FacetRules
namespace Program

/-- How the system lists the names of the regular files directly in a directory. -/
abbrev Listing := String -> IO (List String)

def isTableName (name : String) : Bool :=
  Table.all.any fun table => table.fileStart.toList.isPrefixOf name.toList

/-- The number of the error that reading a directory as a file ends with. -/
def directoryError : UInt32 := 21

/-- Reads what a path leads to, without the files in a directory. -/
def entryAt (path : String) : IO StorageEntry := do
  try
    return .file (.ofOctets (<- IO.FS.readBinFile path))
  catch
    | .inappropriateType _ code _ =>
        return if code = directoryError then .directory [] else .missing
    | _ => return .missing

/-- Reads the files of the tables in a directory.  One that cannot be read counts as one
without any bytes, so it is damaged for the import that comes to it. -/
def tableFilesIn (names : Listing) (dir : String) : IO (List (String × FileContent)) := do
  let tableNames := (<- names dir).filter isTableName
  tableNames.mapM fun name => do
    match <- entryAt (dir ++ "/" ++ name) with
    | .file content => return (name, content)
    | _ => return (name, [])

def dataAt (names : Listing) (dir : String) : IO StorageEntry := do
  match <- entryAt dir with
  | .directory _ =>
      try
        return .directory (<- tableFilesIn names dir)
      catch _ =>
        return .missing
  | entry => return entry

def listed (path : String) : IO (String × StorageEntry) := do
  return (path, <- entryAt path)

def environment : IO CommandLine.Environment := do
  let request : CommandLine.ColorRequest := {
    force := <- IO.getEnv "CLICOLOR_FORCE"
    refuse := <- IO.getEnv "NO_COLOR"
    allow := <- IO.getEnv "CLICOLOR"
    terminal := <- (<- IO.getStdout).isTty }
  return {
    storage := .ofList []
    settingsDir := Settings.defaultDir? (<- IO.getEnv "XDG_CONFIG_HOME") (<- IO.getEnv "HOME")
    color := request.isGranted }

/-- Reads the files that an invocation asks for: first the settings, which may name the
others. -/
def withFiles (names : Listing) (env : CommandLine.Environment) (inv : CommandLine.Invocation) :
    IO CommandLine.Environment := do
  let settings <- (CommandLine.settingsDirOf env inv).toList.mapM (listed <| Settings.pathIn ·)
  let env := { env with storage := .ofList settings }
  match CommandLine.importOptionsOf env inv with
  | .error _ => return env
  | .ok options =>
      let tables <- dataAt names options.dataDir
      let categories <- options.categoriesFile.toList.mapM listed
      return { env with storage := .ofList (settings ++ (options.dataDir, tables) :: categories) }

def run (names : Listing) (words : List String) : IO UInt32 := do
  let env <- environment
  let env <-
    match CommandLine.read words with
    | .ok inv => withFiles names env inv
    | .error _ => pure env
  let outcome := CommandLine.run env words
  (<- IO.getStdout).putStr outcome.stdout
  (<- IO.getStderr).putStr outcome.stderr
  return outcome.exit.toUInt32

end Program
end FacetRules
