import FacetRules.Import
import FacetRules.Json.Printer
import FacetRules.Query.Conditions

/-!
# Settings

Settings are kept in a JSON file in a directory of their own.  A file that does not
exist stands for the default settings, and so does a field that is left out.  What
is given on the command line comes before what is set here.
-/

namespace FacetRules

structure Settings where
  dataDir : Option String := none
  categoriesFile : Option String := none
  pageSize : UInt64 := defaultPageSize
  dumpMaxLines : UInt64 := 100
  /-- How many records to read per table; 0 stands for all. -/
  maxRecords : UInt64 := 0
  deriving DecidableEq, Repr

namespace Wire

open Json

def settings : Decoder Settings := fun v => do
  let defaults : Settings := {}
  let fields <- fields?
    ["data_dir", "categories_file", "page_size", "dump_max_lines", "max_records"] v
  return {
    dataDir := <- fields.optional "data_dir" (.nullable .text) none
    categoriesFile := <- fields.optional "categories_file" (.nullable .text) none
    pageSize := <- fields.optional "page_size" .word64 defaults.pageSize
    dumpMaxLines := <- fields.optional "dump_max_lines" .word64 defaults.dumpMaxLines
    maxRecords := <- fields.optional "max_records" .word64 defaults.maxRecords }

def ofOptionalText : Option String -> Value
  | some s => .ofString s
  | none => .null

def settingsMembers (s : Settings) : List (String × Value) :=
  [("data_dir", ofOptionalText s.dataDir),
    ("categories_file", ofOptionalText s.categoriesFile),
    ("page_size", .ofNat s.pageSize.toNat),
    ("dump_max_lines", .ofNat s.dumpMaxLines.toNat),
    ("max_records", .ofNat s.maxRecords.toNat)]

def ofSettings (s : Settings) : Value :=
  .record (settingsMembers s)

end Wire

namespace Settings

def fileName : String := "config.json"

def pathIn (dir : String) : String :=
  dir ++ "/" ++ fileName

def dirName : String := "attrfilters"

/-- The directory that is used when none is named.  It lies in the directory for
settings, if the path of that one starts with a slash, or else below the home
directory. -/
def defaultDir? (settingsHome home : Option String) : Option String :=
  match settingsHome.filter (·.toList.head? = some '/'), home with
  | some dir, _ => some (dir ++ "/" ++ dirName)
  | none, some dir => some (dir ++ "/.config/" ++ dirName)
  | none, none => none

def read (path : String) (text : String) : Except Error Settings :=
  match (Json.Value.read? text.toList).bind Wire.settings with
  | some s => .ok s
  | none => .error (.malformedSettings path)

def print (s : Settings) : String :=
  (Wire.ofSettings s).print

def load (storage : Storage) (dir : String) : Except Error Settings :=
  let path := pathIn dir
  match storage path with
  | .missing => .ok {}
  | .directory _ => .error (.unreadable path)
  | .file content =>
      match content.plainBytes?.bind Text.ofBytes? with
      | some text => read path text
      | none => .error (.unreadable path)

/-- What to import, with a data directory and a category file that come before the
ones set here. -/
def importOptions (s : Settings) (dataDir categoriesFile : Option String) (expand : UInt64) :
    Except Error ImportOptions :=
  match dataDir.or s.dataDir with
  | some dataDir =>
      .ok {
        dataDir
        categoriesFile := categoriesFile.or s.categoriesFile
        expand
        maxRecords := s.maxRecords }
  | none => .error .noDataDirectory

end Settings
end FacetRules
