import FacetRules.Proofs.Builder.Stored
import FacetRules.Proofs.Except
import FacetRules.Proofs.Expansion.Passes
import FacetRules.Proofs.Import.Records

/-!
# The rows of records

Records are read one by one, without a suffix.  A builder that has added them holds the
rows that could be read, in the same order, with the numbers of their keys.
-/

namespace FacetRules

namespace Row

def assignment? : Row -> Option AssignmentRow
  | ofAssignment row => some row
  | _ => none

def dynamicOption? : Row -> Option DynamicOptionRow
  | ofDynamicOption row => some row
  | _ => none

end Row

def rowsOf (records : List (Table × List String)) : List Row :=
  records.filterMap fun record => (Row.read record.1 record.2).toOption

def assignmentRows (records : List (Table × List String)) : List AssignmentRow :=
  (rowsOf records).filterMap Row.assignment?

def dynamicOptionRows (records : List (Table × List String)) : List DynamicOptionRow :=
  (rowsOf records).filterMap Row.dynamicOption?

theorem mem_rowsOf {records : List (Table × List String)} {row : Row} :
    row ∈ rowsOf records <->
      exists table fields, (table, fields) ∈ records ∧ Row.read table fields = .ok row := by
  simp [rowsOf, toOption_eq_some_iff]

namespace Row

theorem read_eq_ofAssignment_iff {table : Table} {fields : List String} {row : AssignmentRow} :
    read table fields = .ok (.ofAssignment row) <->
      table = .assignments ∧ readAssignment fields = .ok row := by
  cases table with
  | attributes => simp [read, map_eq_ok_iff]
  | options => simp [read, map_eq_ok_iff]
  | assignments => simp [read, map_eq_ok_iff]
  | dynamicOptions => simp [read, map_eq_ok_iff]

theorem read_eq_ofDynamicOption_iff {table : Table} {fields : List String}
    {row : DynamicOptionRow} :
    read table fields = .ok (.ofDynamicOption row) <->
      table = .dynamicOptions ∧ readDynamicOption fields = .ok row := by
  cases table with
  | attributes => simp [read, map_eq_ok_iff]
  | options => simp [read, map_eq_ok_iff]
  | assignments => simp [read, map_eq_ok_iff]
  | dynamicOptions => simp [read, map_eq_ok_iff]

theorem assignment?_eq_some_iff {read : Row} {row : AssignmentRow} :
    read.assignment? = some row <-> read = .ofAssignment row := by
  cases read with
  | ofAttribute read => simp [assignment?]
  | ofOption read => simp [assignment?]
  | ofAssignment read => simp [assignment?]
  | ofDynamicOption read => simp [assignment?]

theorem dynamicOption?_eq_some_iff {read : Row} {row : DynamicOptionRow} :
    read.dynamicOption? = some row <-> read = .ofDynamicOption row := by
  cases read with
  | ofAttribute read => simp [dynamicOption?]
  | ofOption read => simp [dynamicOption?]
  | ofAssignment read => simp [dynamicOption?]
  | ofDynamicOption read => simp [dynamicOption?]

end Row

theorem mem_assignmentRows {records : List (Table × List String)} {row : AssignmentRow} :
    row ∈ assignmentRows records <->
      exists fields, (Table.assignments, fields) ∈ records ∧
        Row.readAssignment fields = .ok row := by
  simp [assignmentRows, Row.assignment?_eq_some_iff, mem_rowsOf, Row.read_eq_ofAssignment_iff]

theorem mem_dynamicOptionRows {records : List (Table × List String)} {row : DynamicOptionRow} :
    row ∈ dynamicOptionRows records <->
      exists fields, (Table.dynamicOptions, fields) ∈ records ∧
        Row.readDynamicOption fields = .ok row := by
  simp [dynamicOptionRows, Row.dynamicOption?_eq_some_iff, mem_rowsOf,
    Row.read_eq_ofDynamicOption_iff]

/-!
# What can be read

A record is read when it is long enough and its columns are, the references among them set.
-/

namespace Row

def IsSet (column : String) : Prop :=
  column ≠ "" ∧ column ≠ "0"

theorem not_isSet_iff {column : String} : ¬ IsSet column <-> column = "" ∨ column = "0" := by
  rw [IsSet, not_and_or, not_not, not_not]

theorem required_eq_ok_iff {reason : SkipReason} {column value : String} :
    required reason column = .ok value <-> IsSet column ∧ value = column := by
  unfold required
  split
  · rename_i hunset
    constructor
    · intro h
      cases h
    · intro h
      exact absurd hunset (not_or.mpr h.1)
  · rename_i hset
    constructor
    · intro h
      cases h
      exact ⟨not_or.mp hset, rfl⟩
    · intro h
      rw [h.2]

theorem required_eq_error_iff {reason other : SkipReason} {column : String} :
    required reason column = .error other <-> ¬ IsSet column ∧ other = reason := by
  unfold required
  split
  · rename_i hunset
    constructor
    · intro h
      cases h
      exact ⟨fun hset => not_or.mpr hset hunset, rfl⟩
    · intro h
      rw [h.2]
  · rename_i hset
    constructor
    · intro h
      cases h
    · intro h
      exact absurd (not_or.mp hset) h.1

theorem readAssignment_eq_ok_iff {fields : List String} {row : AssignmentRow} :
    readAssignment fields = .ok row <->
      exists uuid column owner disabled rest categoryId,
        fields = uuid :: column :: owner :: disabled :: rest ∧
          category column = .ok categoryId ∧ IsSet owner ∧
          row = { uuid, categoryId, attributeUuid := owner, isDisabled := flag disabled } := by
  unfold readAssignment
  split
  · rename_i uuid column owner disabled rest
    rw [bind_eq_ok_iff]
    constructor
    · intro hexists
      rcases hexists with ⟨categoryId, hcategory, hrest⟩
      rcases bind_eq_ok_iff.mp hrest with ⟨value, hvalue, hrow⟩
      rcases required_eq_ok_iff.mp hvalue with ⟨hset, rfl⟩
      cases hrow
      exact ⟨uuid, column, value, disabled, rest, categoryId, rfl, hcategory, hset, rfl⟩
    · intro hexists
      rcases hexists with ⟨uuid, column, owner, disabled, rest, categoryId, hfields, hcategory,
        hset, rfl⟩
      cases hfields
      exact ⟨categoryId, hcategory,
        bind_eq_ok_iff.mpr ⟨owner, required_eq_ok_iff.mpr ⟨hset, rfl⟩, rfl⟩⟩
  · rename_i hshort
    constructor
    · intro h
      cases h
    · intro hexists
      rcases hexists with ⟨uuid, column, owner, disabled, rest, _categoryId, hfields, _hall⟩
      exact absurd hfields (hshort uuid column owner disabled rest)

theorem readDynamicOption_eq_ok_iff {fields : List String} {row : DynamicOptionRow} :
    readDynamicOption fields = .ok row <->
      exists uuid column option precondition disabled rest categoryId,
        fields = uuid :: column :: option :: precondition :: disabled :: rest ∧
          category column = .ok categoryId ∧ IsSet option ∧
          row = { uuid, categoryId, optionUuid := option, precondition
                  isDisabled := flag disabled } := by
  unfold readDynamicOption
  split
  · rename_i uuid column option precondition disabled rest
    rw [bind_eq_ok_iff]
    constructor
    · intro hexists
      rcases hexists with ⟨categoryId, hcategory, hrest⟩
      rcases bind_eq_ok_iff.mp hrest with ⟨value, hvalue, hrow⟩
      rcases required_eq_ok_iff.mp hvalue with ⟨hset, rfl⟩
      cases hrow
      exact ⟨uuid, column, value, precondition, disabled, rest, categoryId, rfl, hcategory, hset,
        rfl⟩
    · intro hexists
      rcases hexists with ⟨uuid, column, option, precondition, disabled, rest, categoryId,
        hfields, hcategory, hset, rfl⟩
      cases hfields
      exact ⟨categoryId, hcategory,
        bind_eq_ok_iff.mpr ⟨option, required_eq_ok_iff.mpr ⟨hset, rfl⟩, rfl⟩⟩
  · rename_i hshort
    constructor
    · intro h
      cases h
    · intro hexists
      rcases hexists with ⟨uuid, column, option, precondition, disabled, rest, _categoryId,
        hfields, _hall⟩
      exact absurd hfields (hshort uuid column option precondition disabled rest)

end Row

/-!
# What cannot be read

A record that cannot be read is refused for a reason that one of its columns gives.
-/

namespace Row

/-- The reasons for which a record cannot be read. -/
def refusals : List SkipReason :=
  [.tooFewFields, .invalidNumber, .missingCategory, .missingAttribute, .missingOption]

/-- Where this reading fails, it is for a reason of the columns. -/
def Refuses {α : Type} (x : Except SkipReason α) : Prop :=
  forall reason, x = .error reason -> reason ∈ refusals

end Row

/-!
# Numbered rows
-/

/-- The number of a key, 0 if it has none. -/
def Registry.numberOf (r : Registry) (uuid : String) : Id :=
  (r.lookupSuffixed uuid none).getD 0

def AssignmentRow.staged (r : Registry) (row : AssignmentRow) : Assignment where
  categoryId := row.categoryId
  attributeId := r.numberOf row.attributeUuid
  isDisabled := row.isDisabled

def DynamicOptionRow.staged (r : Registry) (row : DynamicOptionRow) : DynamicOption where
  categoryId := row.categoryId
  optionId := r.numberOf row.optionUuid
  precondition := row.precondition
  isDisabled := row.isDisabled
  suffix := none

namespace Builder

/-!
# What a builder holds
-/

theorem reading?_fields (table : Table) (fields : List String) :
    (Call.fields table fields).reading? none =
      (Row.read table fields).toOption.map (Reading.mk none) := by
  cases hread : Row.read table fields with
  | error reason =>
      simp [Call.reading?, Call.row?, hread, Except.toOption]
  | ok row =>
      simp [Call.reading?, Call.row?, hread, Except.toOption, Option.filter,
        Row.isKeyed_of_read hread]

theorem readings_recordCalls_none (records : List (Table × List String)) :
    readings none (recordCalls records) = (rowsOf records).map (Reading.mk none) := by
  rw [readings_recordCalls_eq]
  induction records with
  | nil =>
      rfl
  | cons record records ih =>
      rw [List.flatMap_cons, ih, reading?_fields, rowsOf, rowsOf, filterMap_cons_eq,
        List.map_append, Option.toList_map]

section Staged

variable {b : Builder} {records : List (Table × List String)}

theorem Holds.numbered_row (h : b.Holds (readings none (recordCalls records))) {row : Row}
    (hrow : row ∈ rowsOf records) : Reading.Numbered b.registry ⟨none, row⟩ := by
  apply h.numbered
  rw [readings_recordCalls_none]
  exact List.mem_map_of_mem hrow

theorem Holds.lookup_row (h : b.Holds (readings none (recordCalls records))) {row : Row}
    (hrow : row ∈ rowsOf records) {uuid : String} (huuid : uuid ∈ row.keys) :
    b.registry.lookupSuffixed uuid none = some (b.registry.numberOf uuid) := by
  rcases h.numbered_row hrow uuid huuid with ⟨id, hid⟩
  have hlookup : b.registry.lookupSuffixed uuid none = some id := hid
  rw [Registry.numberOf, hlookup]
  rfl

theorem Holds.assignments_staged (h : b.Holds (readings none (recordCalls records))) :
    b.assignments.toList = (assignmentRows records).map (AssignmentRow.staged b.registry) := by
  rw [h.assignments_eq, readings_recordCalls_none, List.filterMap_map, assignmentRows,
    List.map_filterMap]
  apply List.filterMap_congr
  intro row hrow
  cases row with
  | ofAssignment row =>
      simp [Reading.assignment?, Row.assignment?, Reading.number?,
        h.lookup_row hrow (List.mem_singleton.mpr rfl), AssignmentRow.staged]
  | ofAttribute row => rfl
  | ofOption row => rfl
  | ofDynamicOption row => rfl

theorem Holds.dynamicOptions_staged (h : b.Holds (readings none (recordCalls records))) :
    b.dynamicOptions.toList =
      (dynamicOptionRows records).map (DynamicOptionRow.staged b.registry) := by
  rw [h.dynamicOptions_eq, readings_recordCalls_none, List.filterMap_map, dynamicOptionRows,
    List.map_filterMap]
  apply List.filterMap_congr
  intro row hrow
  cases row with
  | ofDynamicOption row =>
      simp [Reading.dynamicOption?, Row.dynamicOption?, Reading.number?,
        h.lookup_row hrow (List.mem_singleton.mpr rfl), DynamicOptionRow.staged]
  | ofAttribute row => rfl
  | ofOption row => rfl
  | ofAssignment row => rfl

theorem Holds.lookup_assignment (h : b.Holds (readings none (recordCalls records)))
    {row : AssignmentRow} (hrow : row ∈ assignmentRows records) :
    b.registry.lookupSuffixed row.attributeUuid none =
      some (b.registry.numberOf row.attributeUuid) := by
  rcases List.mem_filterMap.mp hrow with ⟨read, hread, hkind⟩
  rw [Row.assignment?_eq_some_iff.mp hkind] at hread
  exact h.lookup_row hread (List.mem_singleton.mpr rfl)

theorem Holds.lookup_dynamicOption (h : b.Holds (readings none (recordCalls records)))
    {row : DynamicOptionRow} (hrow : row ∈ dynamicOptionRows records) :
    b.registry.lookupSuffixed row.optionUuid none =
      some (b.registry.numberOf row.optionUuid) := by
  rcases List.mem_filterMap.mp hrow with ⟨read, hread, hkind⟩
  rw [Row.dynamicOption?_eq_some_iff.mp hkind] at hread
  exact h.lookup_row hread (List.mem_singleton.mpr rfl)

theorem Holds.mem_assignments_iff (h : b.Holds (readings none (recordCalls records)))
    {row : Assignment} :
    row ∈ b.assignments.toList <->
      exists uuid column owner disabled rest categoryId,
        (Table.assignments, uuid :: column :: owner :: disabled :: rest) ∈ records ∧
          Row.category column = .ok categoryId ∧ Row.IsSet owner ∧
          row = { categoryId, attributeId := b.registry.numberOf owner
                  isDisabled := Row.flag disabled } := by
  rw [h.assignments_staged, List.mem_map]
  constructor
  · intro hexists
    rcases hexists with ⟨read, hread, rfl⟩
    rcases mem_assignmentRows.mp hread with ⟨fields, hmem, hfields⟩
    rcases Row.readAssignment_eq_ok_iff.mp hfields with
      ⟨uuid, column, owner, disabled, rest, categoryId, rfl, hcategory, hset, rfl⟩
    exact ⟨uuid, column, owner, disabled, rest, categoryId, hmem, hcategory, hset, rfl⟩
  · intro hexists
    rcases hexists with
      ⟨uuid, column, owner, disabled, rest, categoryId, hmem, hcategory, hset, rfl⟩
    have hread := Row.readAssignment_eq_ok_iff.mpr
      ⟨uuid, column, owner, disabled, rest, categoryId, rfl, hcategory, hset, rfl⟩
    exact ⟨_, mem_assignmentRows.mpr ⟨_, hmem, hread⟩, rfl⟩

theorem Holds.mem_dynamicOptions_iff (h : b.Holds (readings none (recordCalls records)))
    {row : DynamicOption} :
    row ∈ b.dynamicOptions.toList <->
      exists uuid column option precondition disabled rest categoryId,
        (Table.dynamicOptions,
            uuid :: column :: option :: precondition :: disabled :: rest) ∈ records ∧
          Row.category column = .ok categoryId ∧ Row.IsSet option ∧
          row = { categoryId, optionId := b.registry.numberOf option, precondition
                  isDisabled := Row.flag disabled, suffix := none } := by
  rw [h.dynamicOptions_staged, List.mem_map]
  constructor
  · intro hexists
    rcases hexists with ⟨read, hread, rfl⟩
    rcases mem_dynamicOptionRows.mp hread with ⟨fields, hmem, hfields⟩
    rcases Row.readDynamicOption_eq_ok_iff.mp hfields with
      ⟨uuid, column, option, precondition, disabled, rest, categoryId, rfl, hcategory, hset, rfl⟩
    exact ⟨uuid, column, option, precondition, disabled, rest, categoryId, hmem, hcategory, hset,
      rfl⟩
  · intro hexists
    rcases hexists with
      ⟨uuid, column, option, precondition, disabled, rest, categoryId, hmem, hcategory, hset, rfl⟩
    have hread := Row.readDynamicOption_eq_ok_iff.mpr
      ⟨uuid, column, option, precondition, disabled, rest, categoryId, rfl, hcategory, hset, rfl⟩
    exact ⟨_, mem_dynamicOptionRows.mpr ⟨_, hmem, hread⟩, rfl⟩

end Staged

end Builder
end FacetRules
