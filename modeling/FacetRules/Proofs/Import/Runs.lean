import FacetRules.Proofs.Expansion.Passes
import FacetRules.Proofs.Import.Records

/-!
# Imports as histories of calls

An import comes to the same as adding, in every pass and for every table in load order, the
records that the files of the table give within the limit.  It fails where there is a
failure within the limit, and what lies beyond is never looked at.  How a table is split
over its files does not matter, nor does the order in which the directory lists them.
-/

namespace FacetRules

namespace Table

/-- No file name begins as the files of two tables do. -/
theorem eq_of_fileStart_prefix {table other : Table} {name : List Char}
    (h : table.fileStart.toList <+: name) (hother : other.fileStart.toList <+: name) :
    table = other := by
  have hapart : forall s t : Table, s.fileStart.toList <+: t.fileStart.toList -> s = t := by
    intro s t
    cases s <;> cases t <;> decide
  rcases List.prefix_or_prefix_of_prefix h hother with hprefix | hprefix
  · exact hapart table other hprefix
  · exact (hapart other table hprefix).symm

end Table

namespace Import

open Builder

/-!
# The files of a table
-/

section Files

variable {files : List (String × FileContent)}

theorem pairwise_filesOf (table : Table) (files : List (String × FileContent)) :
    (filesOf table files).Pairwise fun file other => file.1 < other.1 := by
  have hordered : (Std.ExtTreeMap.ofList files : Std.ExtTreeMap String FileContent).toList.Pairwise
      fun file other => compare file.1 other.1 = .lt := Std.ExtTreeMap.ordered_keys_toList
  exact (hordered.imp compareOfLessAndEq_eq_lt.mp).filter _

theorem mem_toList_ofList (hnames : (files.map Prod.fst).Nodup) {file : String × FileContent} :
    file ∈ (Std.ExtTreeMap.ofList files : Std.ExtTreeMap String FileContent).toList <->
      file ∈ files := by
  have hapart : files.Pairwise fun a b => ¬ compare a.1 b.1 = .eq := by
    apply (List.pairwise_map.mp hnames).imp
    intro a b hne heq
    exact hne (Std.compare_eq_iff_eq.mp heq)
  have hstored : forall other, other ∈ files ->
      (Std.ExtTreeMap.ofList files : Std.ExtTreeMap String FileContent)[other.1]? =
        some other.2 :=
    fun other hother => Std.ExtTreeMap.getElem?_ofList_of_mem Std.ReflCmp.compare_self hapart hother
  rw [Std.ExtTreeMap.mem_toList_iff_getElem?_eq_some]
  constructor
  · intro hfile
    cases hlisted : (files.map Prod.fst).contains file.1 with
    | false =>
        rw [Std.ExtTreeMap.getElem?_ofList_of_contains_eq_false hlisted] at hfile
        cases hfile
    | true =>
        rcases List.mem_map.mp (List.contains_iff_mem.mp hlisted) with ⟨other, hother, hname⟩
        rw [<- hname, hstored other hother] at hfile
        have hsame : other = file := Prod.ext hname (Option.some.inj hfile)
        rw [<- hsame]
        exact hother
  · exact hstored file

theorem mem_filesOf (hnames : (files.map Prod.fst).Nodup) {table : Table}
    {file : String × FileContent} :
    file ∈ filesOf table files <->
      file ∈ files ∧ table.fileStart.toList <+: file.1.toList := by
  unfold filesOf
  rw [List.mem_filter, mem_toList_ofList hnames, List.isPrefixOf_iff_prefix]

end Files

/-- What the files of a table give, one after the other. -/
def resultsOf (table : Table) (files : List (String × FileContent)) :
    List (Option (List String)) :=
  (filesOf table files).flatMap fun file => results file.2

/-- The records of a table within the limit. -/
def recordsOf (limit : Limit) (files : List (String × FileContent)) (table : Table) :
    List (Table × List String) :=
  (within limit (resultsOf table files)).reduceOption.map fun fields => (table, fields)

/-- The records of all tables, in load order. -/
def allRecords (limit : Limit) (files : List (String × FileContent)) :
    List (Table × List String) :=
  Table.all.flatMap (recordsOf limit files)

/-- Nothing fails within the limit. -/
def Intact (limit : Limit) (files : List (String × FileContent)) : Prop :=
  forall table, none ∉ within limit (resultsOf table files)

/-!
# Tables
-/

section Runs

variable {storage : Storage} {options : ImportOptions} {files : List (String × FileContent)}

theorem foldlM_loadFiles_eq_ok_iff {limit : Limit} {tables : List Table} {b b' : Builder} :
    tables.foldlM (fun b table => loadFiles table limit b (filesOf table files)) b = .ok b' <->
      (forall table, table ∈ tables -> none ∉ within limit (resultsOf table files)) ∧
        b' = b.performAll (recordCalls (tables.flatMap (recordsOf limit files))) := by
  induction tables generalizing b with
  | nil =>
      constructor
      · intro h
        cases h
        exact ⟨by simp, rfl⟩
      · intro h
        rw [h.2]
        rfl
  | cons table tables ih =>
      have hcalls : forall b : Builder,
          b.performAll (recordCalls ((table :: tables).flatMap (recordsOf limit files))) =
            (b.performAll ((within limit (resultsOf table files)).reduceOption.map
              (Call.fields table))).performAll
                (recordCalls (tables.flatMap (recordsOf limit files))) := by
        intro b
        rw [List.flatMap_cons, recordCalls, List.map_append, performAll_append, recordsOf,
          List.map_map]
        rfl
      rw [List.foldlM_cons, bind_eq_ok_iff, List.forall_mem_cons, hcalls]
      constructor
      · intro h
        rcases h with ⟨loaded, hloaded, hrest⟩
        rcases loadFiles_eq_ok_iff.mp hloaded with ⟨hintact, rfl⟩
        rcases ih.mp hrest with ⟨hintacts, rfl⟩
        exact ⟨⟨hintact, hintacts⟩, rfl⟩
      · intro h
        rcases h with ⟨⟨hintact, hintacts⟩, rfl⟩
        exact ⟨_, loadFiles_eq_ok_iff.mpr ⟨hintact, rfl⟩, ih.mpr ⟨hintacts, rfl⟩⟩

theorem loadTables_eq_ok_iff (hdir : storage options.dataDir = .directory files)
    {b b' : Builder} :
    loadTables storage options b = .ok b' <->
      Intact (limitOf options.maxRecords) files ∧
        b' = b.performAll (recordCalls (allRecords (limitOf options.maxRecords) files)) := by
  have hall : (forall table, table ∈ Table.all ->
      none ∉ within (limitOf options.maxRecords) (resultsOf table files)) <->
        Intact (limitOf options.maxRecords) files := by
    constructor
    · intro h table
      exact h table table.mem_all
    · intro h table _htable
      exact h table
  rw [loadTables, hdir, <- hall]
  exact foldlM_loadFiles_eq_ok_iff

/-!
# Passes
-/

/-- The calls of the passes from the given one on. -/
def passesFrom (pass count : Nat) (records : List (Table × List String)) : List Call :=
  (List.range' pass count).flatMap fun p =>
    .suffix (some (expandSuffix p)) :: recordCalls records

theorem loadPasses_eq_ok_iff (hdir : storage options.dataDir = .directory files)
    {count pass : Nat} {b b' : Builder} :
    loadPasses storage options count pass b = .ok b' <->
      (0 < count -> Intact (limitOf options.maxRecords) files) ∧
        b' = b.performAll (passesFrom pass count
          (allRecords (limitOf options.maxRecords) files)) := by
  induction count generalizing pass b with
  | zero =>
      constructor
      · intro h
        cases h
        exact ⟨by simp, rfl⟩
      · intro h
        rw [h.2]
        rfl
  | succ count ih =>
      have hcalls : forall records, b.performAll (passesFrom pass (count + 1) records) =
          ((b.setSuffix (some (expandSuffix pass))).performAll (recordCalls records)).performAll
            (passesFrom (pass + 1) count records) := by
        intro records
        rw [passesFrom, List.range'_succ, List.flatMap_cons, performAll_append]
        rfl
      rw [loadPasses, bind_eq_ok_iff, hcalls]
      constructor
      · intro h
        rcases h with ⟨loaded, hloaded, hrest⟩
        rcases (loadTables_eq_ok_iff hdir).mp hloaded with ⟨hintact, rfl⟩
        rcases ih.mp hrest with ⟨_hintact, rfl⟩
        exact ⟨fun _ => hintact, rfl⟩
      · intro h
        rcases h with ⟨hintact, rfl⟩
        have hfiles := hintact (Nat.succ_pos count)
        exact ⟨_, (loadTables_eq_ok_iff hdir).mpr ⟨hfiles, rfl⟩, ih.mpr ⟨fun _ => hfiles, rfl⟩⟩

/-!
# Imports
-/

def categoriesOf (storage : Storage) (options : ImportOptions) : Except Error CategoryTree :=
  match options.categoriesFile with
  | some path => loadCategories storage path
  | none => .ok ∅

/-- The calls of an import: the records once without a suffix, or once in every pass. -/
def callsFor (expand : UInt64) (records : List (Table × List String)) : List Call :=
  if expand = 0 then recordCalls records else passes expand.toNat records

/-- The builder of an import, after all calls. -/
def builderFor (tree : CategoryTree) (options : ImportOptions)
    (files : List (String × FileContent)) : Builder :=
  ((∅ : Builder).withCategories tree).performAll
    (callsFor options.expand (allRecords (limitOf options.maxRecords) files))

theorem passes_eq_passesFrom (n : Nat) (records : List (Table × List String)) :
    passes n records = passesFrom 0 n records := by
  rw [passes, passesFrom, List.range_eq_range']

theorem load_eq_ok_iff (hdir : storage options.dataDir = .directory files) {b b' : Builder} :
    (if options.expand = 0 then loadTables storage options b
      else loadPasses storage options options.expand.toNat 0 b) = .ok b' <->
      Intact (limitOf options.maxRecords) files ∧
        b' = b.performAll (callsFor options.expand
          (allRecords (limitOf options.maxRecords) files)) := by
  by_cases hexpand : options.expand = 0
  · rw [if_pos hexpand, callsFor, if_pos hexpand]
    exact loadTables_eq_ok_iff hdir
  · have hpositive : 0 < options.expand.toNat := UInt64.pos_iff_ne_zero.mpr hexpand
    rw [if_neg hexpand, callsFor, if_neg hexpand, passes_eq_passesFrom, loadPasses_eq_ok_iff hdir]
    constructor
    · intro h
      exact ⟨h.1 hpositive, h.2⟩
    · intro h
      exact ⟨fun _ => h.1, h.2⟩

theorem run_eq (storage : Storage) (options : ImportOptions) :
    run storage options = categoriesOf storage options >>= fun tree =>
      (if options.expand = 0 then loadTables storage options (Builder.withCategories ∅ tree)
        else loadPasses storage options options.expand.toNat 0 (Builder.withCategories ∅ tree)) >>=
          fun b => .ok (b.finish.1.presort, b.finish.2) := by
  -- What follows the two choices stands in each of their branches.
  unfold run categoriesOf
  by_cases hexpand : options.expand = 0
  · simp only [if_pos hexpand]
    cases options.categoriesFile with
    | none => rfl
    | some path => rfl
  · simp only [if_neg hexpand]
    cases options.categoriesFile with
    | none => rfl
    | some path => rfl

/-- An import succeeds where the category tree can be loaded and nothing fails within the
limit, and then gives what the calls for its records give. -/
theorem run_eq_ok_iff (hdir : storage options.dataDir = .directory files) {catalog : Catalog}
    {report : Report} :
    run storage options = .ok (catalog, report) <->
      exists tree, categoriesOf storage options = .ok tree ∧
        Intact (limitOf options.maxRecords) files ∧
        catalog = (builderFor tree options files).finish.1.presort ∧
        report = (builderFor tree options files).finish.2 := by
  rw [run_eq, bind_eq_ok_iff]
  constructor
  · intro h
    rcases h with ⟨tree, htree, h⟩
    rcases bind_eq_ok_iff.mp h with ⟨b, hb, h⟩
    rcases (load_eq_ok_iff hdir).mp hb with ⟨hintact, rfl⟩
    cases h
    exact ⟨tree, htree, hintact, rfl, rfl⟩
  · intro h
    rcases h with ⟨tree, htree, hintact, rfl, rfl⟩
    exact ⟨tree, htree, bind_eq_ok_iff.mpr ⟨_, (load_eq_ok_iff hdir).mpr ⟨hintact, rfl⟩, rfl⟩⟩

theorem allRecords_congr {limit : Limit} {files' : List (String × FileContent)}
    (h : forall table, within limit (resultsOf table files') =
      within limit (resultsOf table files)) :
    allRecords limit files' = allRecords limit files := by
  have hrecords : recordsOf limit files' = recordsOf limit files := by
    funext table
    rw [recordsOf, recordsOf, h]
  rw [allRecords, allRecords, hrecords]

theorem intact_congr {limit : Limit} {files' : List (String × FileContent)}
    (h : forall table, within limit (resultsOf table files') =
      within limit (resultsOf table files)) :
    Intact limit files' <-> Intact limit files := by
  have htable : forall table, none ∉ within limit (resultsOf table files') <->
      none ∉ within limit (resultsOf table files) := by
    intro table
    rw [h]
  exact forall_congr' htable

/-- Directories whose tables agree within the limit are imported alike. -/
theorem toOption_run_congr {storage' : Storage} {files' : List (String × FileContent)}
    (hdir : storage options.dataDir = .directory files)
    (hdir' : storage' options.dataDir = .directory files')
    (htree : categoriesOf storage' options = categoriesOf storage options)
    (h : forall table, within (limitOf options.maxRecords) (resultsOf table files') =
      within (limitOf options.maxRecords) (resultsOf table files)) :
    (run storage' options).toOption = (run storage options).toOption := by
  have hbuilder : forall tree, builderFor tree options files' = builderFor tree options files := by
    intro tree
    rw [builderFor, builderFor, allRecords_congr h]
  have hsame : forall result, run storage' options = .ok result <->
      run storage options = .ok result := by
    intro result
    rcases result with ⟨catalog, report⟩
    rw [run_eq_ok_iff hdir', run_eq_ok_iff hdir, htree, intact_congr h]
    simp only [hbuilder]
  apply Option.ext
  intro result
  have hok : forall x : Except Error (Catalog × Report), x.toOption = some result <->
      x = .ok result := by
    intro x
    cases x with
    | error e => simp [Except.toOption]
    | ok a => simp [Except.toOption]
  rw [hok, hok, hsame]

/-!
# The import of a directory
-/

/-- An import of the regular files of a directory comes to the calls for their records.

The files of a table are those whose names begin as the table's do, in the order of the
names, and no file belongs to two tables.  No file gives more records than are left of the
limit.  The import succeeds where no failure is within the limit, and then gives what a new
builder gives after the calls: for every pass and for every table in load order, the records
of the table within the limit.  So only these matter, and neither the files over which a
table is split nor the order in which they are listed. -/
theorem run_refines_calls (hdir : storage options.dataDir = .directory files)
    (hnames : (files.map Prod.fst).Nodup) :
    (forall table, (filesOf table files).Pairwise (fun file other => file.1 < other.1) ∧
      forall file, file ∈ filesOf table files <->
        file ∈ files ∧ table.fileStart.toList <+: file.1.toList) ∧
    (forall file table other, file ∈ filesOf table files -> file ∈ filesOf other files ->
      table = other) ∧
    (forall table b b' limit name content count,
      loadFile table (some limit) b name content = .ok (b', count) -> count ≤ limit) ∧
    (forall catalog report, run storage options = .ok (catalog, report) <->
      exists tree, categoriesOf storage options = .ok tree ∧
        Intact (limitOf options.maxRecords) files ∧
        catalog = (builderFor tree options files).finish.1.presort ∧
        report = (builderFor tree options files).finish.2) ∧
    forall storage' files', storage' options.dataDir = .directory files' ->
      categoriesOf storage' options = categoriesOf storage options ->
      (forall table, within (limitOf options.maxRecords) (resultsOf table files') =
        within (limitOf options.maxRecords) (resultsOf table files)) ->
      (run storage' options).toOption = (run storage options).toOption := by
  refine ⟨?_, ?_, ?_, ?_, ?_⟩
  · intro table
    exact ⟨pairwise_filesOf table files, fun _ => mem_filesOf hnames⟩
  · intro file table other hfile hother
    exact Table.eq_of_fileStart_prefix ((mem_filesOf hnames).mp hfile).2
      ((mem_filesOf hnames).mp hother).2
  · intro table b b' limit name content count h
    exact count_le_of_loadFile h
  · intro catalog report
    exact run_eq_ok_iff hdir
  · intro storage' files' hdir' htree h
    exact toOption_run_congr hdir hdir' htree h

end Runs

/-- The attributes of a shop in three files, which are not listed in order: one with no more
than the heading, one with a size and a kind, and one that is damaged. -/
def splitAttributes : List (String × FileContent) :=
  [("attribute.csv.gz.2", [.plain [0x1F]]),
    ("attribute.csv.gz.1",
      [.packed ("uuid,kind\nsize,,f,f,f,Size,1,,,f,,\n" ++
        "kind,,f,f,f,Kind,2,,,f,,\n").toByteArray.data.toList]),
    ("notes.txt", [.plain [0x2D]]),
    ("attribute.csv.gz.0", [.packed "uuid,kind\n".toByteArray.data.toList])]

/-- The size in a file of its own. -/
def wholeAttributes : List (String × FileContent) :=
  [("attribute.csv.gz",
    [.packed "uuid,kind\nsize,,f,f,f,Size,1,,,f,,".toByteArray.data.toList])]

/-- Where one record counts in each of two passes, the split table can be imported, and comes
to the same as the file with this record. -/
theorem run_refines_calls_splitAttributes :
    (splitAttributes.map Prod.fst).Nodup ∧
      (exists catalog report,
        run (.ofList [("data", .directory splitAttributes)])
            { dataDir := "data", expand := 2, maxRecords := 1 } = .ok (catalog, report) ∧
          report.rows .attributes = 2) ∧
      (run (.ofList [("data", .directory wholeAttributes)])
          { dataDir := "data", expand := 2, maxRecords := 1 }).toOption =
        (run (.ofList [("data", .directory splitAttributes)])
          { dataDir := "data", expand := 2, maxRecords := 1 }).toOption := by
  have hnames : (splitAttributes.map Prod.fst).Nodup := by
    decide
  have h := @run_refines_calls (.ofList [("data", .directory splitAttributes)])
    { dataDir := "data", expand := 2, maxRecords := 1 } splitAttributes rfl hnames
  have hintact : Intact (limitOf 1) splitAttributes := by
    intro table
    cases table with
    | attributes => decide +kernel
    | options => decide +kernel
    | assignments => decide +kernel
    | dynamicOptions => decide +kernel
  have hrun := (h.2.2.2.1 _ _).mpr ⟨∅, rfl, hintact, rfl, rfl⟩
  have hrows : (builderFor ∅ { dataDir := "data", expand := 2, maxRecords := 1 }
      splitAttributes).finish.2.rows .attributes = 2 := by
    decide +kernel
  have hsame : forall table, within (limitOf 1) (resultsOf table wholeAttributes) =
      within (limitOf 1) (resultsOf table splitAttributes) := by
    intro table
    cases table with
    | attributes => rfl
    | options => rfl
    | assignments => rfl
    | dynamicOptions => rfl
  exact ⟨hnames, ⟨_, _, hrun, hrows⟩, h.2.2.2.2 _ wholeAttributes rfl rfl hsame⟩

end Import
end FacetRules
