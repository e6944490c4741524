import FacetRules.Builder.Finish
import FacetRules.Csv
import FacetRules.Json.Bytes
import FacetRules.Service
import FacetRules.Storage
import FacetRules.Text.Decimal
import FacetRules.Wire.Category

/-!
# Importing tables

The tables are read from the packed files of a directory.  A table may be split
over several files: every file whose name begins as the table's does is read, in
the order of the names.  The tables are loaded in load order, so that a full import
numbers attributes first, then options, and so on.

The same files can be read several times over, each pass with a suffix of its own,
to get a catalog several times larger.  The number of records read per table and
pass can be limited; damage behind the last record that counts does no harm.

The category tree is a JSON file, which is unpacked first if its name says so.
-/

namespace FacetRules

structure ImportOptions where
  dataDir : String
  categoriesFile : Option String := none
  /-- How many passes to make, each with a suffix; 0 stands for one without. -/
  expand : UInt64 := 0
  /-- How many records to read per table and pass; 0 stands for all. -/
  maxRecords : UInt64 := 0
  deriving DecidableEq, Repr

namespace Import

/-- The suffix of a pass: its number with at least three digits. -/
def expandSuffix (pass : Nat) : String :=
  "-expanded-" ++ Text.flushRight 3 '0' pass

/-! ## The category tree -/

/-- Whether the name of a file says that it is packed: the part behind the last dot
of the last name in the path is gz, and something stands in front of that dot. -/
def isPackedName (path : String) : Bool :=
  let names := (path.toList.splitOn '/').filter fun name => name != [] && name != ['.']
  match names.getLast? with
  | some name => name.length > 3 && name.drop (name.length - 3) == ['.', 'g', 'z']
  | none => false

def categoryBytes? (path : String) (content : FileContent) : Option (List UInt8) :=
  if isPackedName path then
    match content.unpack with
    | (bytes, true) => some bytes
    | (_, false) => none
  else
    content.plainBytes?

def loadCategories (storage : Storage) (path : String) : Except Error CategoryTree :=
  match storage path with
  | .missing => .error (.unreadable path)
  | .directory _ => .error (.malformedJson path)
  | .file content =>
      match categoryBytes? path content >>= Json.Value.readBytes? >>= Wire.categoryTree with
      | some tree => .ok tree
      | none => .error (.malformedJson path)

/-! ## The tables -/

def addRecords (table : Table) : Builder -> List (List String) -> Except Error Builder
  | b, [] => .ok b
  | b, fields :: rest =>
      match b.addFields table fields with
      | (.ok (), b) => addRecords table b rest
      | (.error e, _) => .error e

/-- How many records may still be read; nothing stands for all. -/
abbrev Limit := Option Nat

def limitOf (maxRecords : UInt64) : Limit :=
  if maxRecords = 0 then none else some maxRecords.toNat

def reaches (count : Nat) : Limit -> Bool
  | some limit => limit ≤ count
  | none => false

/-- Reads one file of a table.  Damage is harmless when the limit is reached before
it. -/
def loadFile (table : Table) (limit : Limit) (b : Builder) (name : String)
    (content : FileContent) : Except Error (Builder × Nat) := do
  let (bytes, intact) := content.unpack
  let records := Csv.read bytes intact
  let rows :=
    match limit with
    | some limit => records.rows.take limit
    | none => records.rows
  let b <- addRecords table b rows
  if records.damaged && !reaches rows.length limit then
    .error (.damagedTable name)
  else
    return (b, rows.length)

def loadFiles (table : Table) : Limit -> Builder -> List (String × FileContent) ->
    Except Error Builder
  | _, b, [] => .ok b
  | limit, b, (name, content) :: files => do
      let (b, count) <- loadFile table limit b name content
      if reaches count limit then
        return b
      else
        loadFiles table (limit.map (· - count)) b files

/-- The files of a table, in the order of their names. -/
def filesOf (table : Table) (files : List (String × FileContent)) : List (String × FileContent) :=
  (Std.ExtTreeMap.ofList files : Std.ExtTreeMap String FileContent).toList.filter
    fun (name, _) => table.fileStart.toList.isPrefixOf name.toList

def loadTables (storage : Storage) (options : ImportOptions) (b : Builder) :
    Except Error Builder :=
  match storage options.dataDir with
  | .directory files =>
      Table.all.foldlM
        (fun b table => loadFiles table (limitOf options.maxRecords) b (filesOf table files)) b
  | _ => .error (.unreadable options.dataDir)

/-- Makes passes, counted from the given one, each with its suffix. -/
def loadPasses (storage : Storage) (options : ImportOptions) :
    Nat -> Nat -> Builder -> Except Error Builder
  | 0, _, b => .ok b
  | count + 1, pass, b => do
      let b <- loadTables storage options (b.setSuffix (some (expandSuffix pass)))
      loadPasses storage options count (pass + 1) b

def run (storage : Storage) (options : ImportOptions) : Except Error (Catalog × Report) := do
  let categories <-
    match options.categoriesFile with
    | some path => loadCategories storage path
    | none => .ok ∅
  let b := Builder.withCategories ∅ categories
  let b <-
    if options.expand = 0 then
      loadTables storage options b
    else
      loadPasses storage options options.expand.toNat 0 b
  let (catalog, report) := b.finish
  return (catalog.presort, report)

end Import

namespace Service

/-- Imports a catalog and puts it into service.  Where the import fails, the former
catalog stays. -/
def importTables (s : Service) (storage : Storage) (options : ImportOptions) :
    Except Error Answer × Service :=
  match Import.run storage options with
  | .ok (catalog, report) => (.ok (catalog.importAnswer report), ofCatalog catalog)
  | .error e => (.error e, s)

end Service
end FacetRules
